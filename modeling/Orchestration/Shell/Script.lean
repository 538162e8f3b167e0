import Orchestration.Shell.Word
import Orchestration.Text.Split

/-!
# Shell scripts

* `Redirect` — where a command reads from or writes to;
* `Command` — what a script says to do;
* `Token`, `readTokens` — the words and marks of a text;
* `Command.ofTokens?` — the command that they spell;
* `readScript` — the command that a text spells.
-/

namespace Orchestration.Shell

/-! ### Commands -/

/-- How a redirection opens its target. -/
inductive RedirectMode where
  | overwrite
  | append
  | input
  /-- The target is itself what is read. -/
  | text
  /-- The target is another descriptor. -/
  | same
  deriving DecidableEq, Repr

/-- A redirection of a descriptor. -/
structure Redirect where
  descriptor : Nat
  mode : RedirectMode
  target : Word

/-- What a script says to do. -/
inductive Command where
  | nothing
  /-- A program or a built-in command with its arguments. -/
  | simple (assignments : List (String × Word)) (words : List Word) (redirects : List Redirect)
  | sequence (first second : Command)
  /-- The second only if the first succeeds. -/
  | both (first second : Command)
  /-- The second only if the first fails. -/
  | either (first second : Command)
  | negation (inner : Command)
  /-- The second reads what the first writes. -/
  | pipe (first second : Command)
  /-- From now on the name stands for the body. -/
  | define (name : String) (body : Command)
  | branch (test yes no : Command)
  /-- The body as long as the test comes out as wanted. -/
  | loop (wanted : Bool) (test body : Command)
  | each (name : String) (items : List Word) (body : Command)
  | choose (subject : Word) (arms : List (List Word × Command))
  | background (inner : Command)
  /-- A command in a shell of its own. -/
  | inner (body : Command)
  | redirected (body : Command) (redirects : List Redirect)
  deriving Inhabited

namespace Command

/-- The words of a command that are replaced when it begins. -/
def words : Command → List Word
  | .simple assignments words redirects =>
    words ++ redirects.map (·.target) ++ assignments.map (·.2)
  | .each _ items _ => items
  | .choose subject _ => [subject]
  | .redirected _ redirects => redirects.map (·.target)
  | _ => []

/-- A list with its first element changed that can be. -/
def changeFirst? {α : Type} (f : α → Option α) : List α → Option (List α)
  | [] => none
  | a :: rest =>
    match f a with
    | some a => some (a :: rest)
    | none => (changeFirst? f rest).map (a :: ·)

/-- A redirection with the first output that it lacks. -/
def fillRedirect? (t : RawText) (r : Redirect) : Option Redirect :=
  (fillOutput? t r.target).map fun target => { r with target }

/-- An assignment with the first output that it lacks. -/
def fillAssignment? (t : RawText) (a : String × Word) : Option (String × Word) :=
  (fillOutput? t a.2).map fun w => (a.1, w)

/-- A simple command with the first output that it lacks. -/
def fillSimple (t : RawText) (assignments : List (String × Word)) (words : List Word)
    (redirects : List Redirect) : Command :=
  match changeFirst? (fillOutput? t) words with
  | some words => .simple assignments words redirects
  | none =>
    match changeFirst? (fillRedirect? t) redirects with
    | some redirects => .simple assignments words redirects
    | none =>
      .simple ((changeFirst? (fillAssignment? t) assignments).getD assignments) words redirects

/-- A command with the first output that its words lack. -/
def fill (t : RawText) : Command → Command
  | .simple assignments words redirects => fillSimple t assignments words redirects
  | .each name items body => .each name ((changeFirst? (fillOutput? t) items).getD items) body
  | .choose subject arms => .choose ((fillOutput? t subject).getD subject) arms
  | .redirected body redirects =>
    .redirected body ((changeFirst? (fillRedirect? t) redirects).getD redirects)
  | c => c

end Command

/-! ### Tokens -/

/-- A word or a mark of a script. -/
inductive Token where
  | word (w : Word)
  | mark (text : String)
  | redirect (descriptor : Nat) (mode : RedirectMode)

/-- The mark at the beginning of a text. -/
def mark? : List Char → Option (Token × List Char)
  | '\n' :: rest => some (.mark "\n", rest)
  | ';' :: ';' :: rest => some (.mark ";;", rest)
  | ';' :: rest => some (.mark ";", rest)
  | '&' :: '&' :: rest => some (.mark "&&", rest)
  | '&' :: rest => some (.mark "&", rest)
  | '|' :: '|' :: rest => some (.mark "||", rest)
  | '|' :: rest => some (.mark "|", rest)
  | '(' :: rest => some (.mark "(", rest)
  | ')' :: rest => some (.mark ")", rest)
  | _ => none

/-- The redirection at the beginning of a text, given the number before it. -/
def redirect? (number : Option Nat) : List Char → Option (Token × List Char)
  | '>' :: '>' :: rest => some (.redirect (number.getD 1) .append, rest)
  | '>' :: '&' :: rest => some (.redirect (number.getD 1) .same, rest)
  | '>' :: rest => some (.redirect (number.getD 1) .overwrite, rest)
  | '<' :: rest => some (.redirect (number.getD 0) .input, rest)
  | _ => none

/-- The redirection at the beginning of a text, with the digit before it. -/
def numberedRedirect? : List Char → Option (Token × List Char)
  | c :: rest =>
    if c.isDigit then redirect? (some (c.toNat - '0'.toNat)) rest else redirect? none (c :: rest)
  | [] => none

/-- What a script holds between the line of a mark and a line that is the word after the mark:
the text there, and the script without it. -/
def takeBody (delimiter : List Char) (trimTabs : Bool) (cs : List Char) : List Char × List Char :=
  let line := cs.takeWhile (· != '\n')
  let trimmed (l : List Char) : List Char := if trimTabs then l.dropWhile (· == '\t') else l
  let lines := (splitOn '\n' ((cs.dropWhile (· != '\n')).drop 1)).map trimmed
  let body := lines.takeWhile (· != delimiter)
  let left := (lines.dropWhile (· != delimiter)).drop 1
  ((body.map (· ++ ['\n'])).flatten, line ++ '\n' :: joinWith '\n' left)

/-- A text inside a script as a word; the word that ends it says by quotes whether anything in it
is replaced. -/
def bodyWord (literal : Bool) (body : List Char) : Option Word :=
  if literal then some (.literal body)
  else (readPieces (body.length + 2) true none body).bind fun (w, left) =>
    if left.isEmpty then some (.quotes :: w) else none

/-- The characters of a word that ends a text. -/
def delimiterOf (w : Word) : List Char :=
  w.filterMap fun
    | .char c _ => some c
    | _ => none

/-- A text inside a script: its tokens, and the script without it. -/
def readBody? (cs : List Char) : Option (List Token × List Char) :=
  let (trimTabs, cs) := match cs with
    | '-' :: rest => (true, rest)
    | cs => (false, cs)
  match readWord (cs.dropWhile (· == ' ')) with
  | none => none
  | some (w, rest) =>
    let (body, left) := takeBody (delimiterOf w) trimTabs rest
    (bodyWord w.bare?.isNone body).map fun w => ([.redirect 0 .text, .word w], left)

/-- Read the tokens of a text.  Every one takes at least one character, so a text's length is
enough fuel. -/
def readTokens : Nat → List Char → Option (List Token)
  | 0, _ => none
  | _ + 1, [] => some []
  | n + 1, c :: rest =>
    if c == ' ' || c == '\t' then readTokens n rest
    else if c == '#' then readTokens n (rest.dropWhile (· != '\n'))
    else match c, rest with
      | '\\', '\n' :: rest => readTokens n rest
      | '<', '<' :: rest =>
        match readBody? rest with
        | some (tokens, rest) => (readTokens n rest).map (tokens ++ ·)
        | none => none
      | c, rest =>
        match (numberedRedirect? (c :: rest)).or (mark? (c :: rest)) with
        | some (token, rest) => (readTokens n rest).map (token :: ·)
        | none =>
          match readWord (c :: rest) with
          | some (w, rest) => (readTokens n rest).map (.word w :: ·)
          | none => none

/-! ### Reading commands -/

/-- The name and the value that a word assigns. -/
def assignment? (w : Word) : Option (String × Word) :=
  let isPart (p : Piece) : Bool := p.bare?.any isNameChar
  let name := (w.takeWhile isPart).filterMap Piece.bare?
  match name, w.dropWhile isPart with
  | first :: _, .char '=' false :: value =>
    if isNameStart first then some (String.ofList name, value) else none
  | _, _ => none

/-- The words and redirections up to the next mark. -/
def takeWords : List Token → (List Word × List Redirect) × List Token
  | .word w :: rest =>
    let ((ws, rs), left) := takeWords rest
    ((w :: ws, rs), left)
  | .redirect d mode :: .word w :: rest =>
    let ((ws, rs), left) := takeWords rest
    ((ws, ⟨d, mode, w⟩ :: rs), left)
  | rest => (([], []), rest)

/-- The redirections at the beginning of tokens. -/
def takeRedirects : List Token → List Redirect × List Token
  | .redirect d mode :: .word w :: rest =>
    let (rs, left) := takeRedirects rest
    (⟨d, mode, w⟩ :: rs, left)
  | rest => ([], rest)

/-- The assignments at the beginning of words. -/
def takeAssignments : List Word → List (String × Word) × List Word
  | [] => ([], [])
  | w :: rest =>
    match assignment? w with
    | some a =>
      let (as, ws) := takeAssignments rest
      (a :: as, ws)
    | none => ([], w :: rest)

/-- The tokens without line ends at their beginning. -/
def skipLineEnds : List Token → List Token
  | .mark "\n" :: rest => skipLineEnds rest
  | rest => rest

/-- What follows a keyword. -/
def afterKeyword? (keyword : String) : List Token → Option (List Token)
  | .word w :: rest => if w.isKeyword keyword then some rest else none
  | _ => none

/-- The keywords that end a list of commands. -/
def closers : List String := ["then", "elif", "else", "fi", "do", "done", "esac", "\x7d"]

/-- Whether a list of commands ends here. -/
def endsList : List Token → Bool
  | [] => true
  | .mark text :: _ => text == ")" || text == ";;"
  | .word w :: _ => closers.any w.isKeyword
  | .redirect .. :: _ => false

/-- The alternatives of a pattern, up to the parenthesis after them. -/
def takePatterns : List Token → Option (List Word × List Token)
  | .word w :: .mark ")" :: rest => some ([w], rest)
  | .word w :: .mark "|" :: rest => (takePatterns rest).map fun (ws, left) => (w :: ws, left)
  | _ => none

/-- The words up to the end of a line. -/
def takeItems : List Token → List Word × List Token
  | .word w :: rest =>
    let (ws, left) := takeItems rest
    (w :: ws, left)
  | .mark ";" :: rest => ([], rest)
  | rest => ([], rest)

/-- The items of a loop; all arguments if none are given. -/
def loopItems (rest : List Token) : List Word × List Token :=
  match afterKeyword? "in" (skipLineEnds rest) with
  | some rest => takeItems rest
  | none =>
    let rest := match rest with
      | .mark ";" :: rest => rest
      | rest => rest
    ([[.parameter "@" true]], rest)

/-- The command with redirections around it. -/
def Command.redirect (body : Command) (redirects : List Redirect) : Command :=
  if redirects.isEmpty then body else .redirected body redirects

/-- The simple command that words and redirections make up. -/
def Command.ofWords (words : List Word) (redirects : List Redirect) : Command :=
  let (assignments, words) := takeAssignments words
  .simple assignments words redirects

mutual

/-- Read a list of commands, up to what ends it. -/
def readList : Nat → List Token → Option (Command × List Token)
  | 0, _ => none
  | n + 1, tokens =>
    let tokens := skipLineEnds tokens
    if endsList tokens then some (.nothing, tokens)
    else do
      let (first, rest) ← readChain n tokens
      let continued (first : Command) (rest : List Token) : Option (Command × List Token) :=
        (readList n rest).map fun (second, rest) => (.sequence first second, rest)
      match rest with
      | .mark ";" :: rest | .mark "\n" :: rest => continued first rest
      | .mark "&" :: rest => continued (.background first) rest
      | rest => if endsList rest then some (first, rest) else none

/-- Read commands that depend on each other's success. -/
def readChain : Nat → List Token → Option (Command × List Token)
  | 0, _ => none
  | n + 1, tokens => do
    let (first, rest) ← readNegation n tokens
    readChainFrom n first rest

/-- Read what depends on the success of the commands before. -/
def readChainFrom : Nat → Command → List Token → Option (Command × List Token)
  | 0, _, _ => none
  | n + 1, first, tokens =>
    match tokens with
    | .mark "&&" :: rest => do
      let (second, rest) ← readNegation n (skipLineEnds rest)
      readChainFrom n (.both first second) rest
    | .mark "||" :: rest => do
      let (second, rest) ← readNegation n (skipLineEnds rest)
      readChainFrom n (.either first second) rest
    | tokens => some (first, tokens)

/-- Read a command that may be negated. -/
def readNegation : Nat → List Token → Option (Command × List Token)
  | 0, _ => none
  | n + 1, tokens =>
    match afterKeyword? "!" tokens with
    | some rest => (readPipe n rest).map fun (c, rest) => (.negation c, rest)
    | none => readPipe n tokens

/-- Read commands of which each reads what the one before writes. -/
def readPipe : Nat → List Token → Option (Command × List Token)
  | 0, _ => none
  | n + 1, tokens => do
    let (first, rest) ← readCommand n tokens
    match rest with
    | .mark "|" :: rest =>
      let (second, rest) ← readPipe n (skipLineEnds rest)
      return (.pipe first second, rest)
    | rest => return (first, rest)

/-- Read one command with its redirections. -/
def readCommand : Nat → List Token → Option (Command × List Token)
  | 0, _ => none
  | n + 1, tokens => do
    let compound (r : Command × List Token) : Option (Command × List Token) :=
      let (redirects, rest) := takeRedirects r.2
      some (r.1.redirect redirects, rest)
    match tokens with
    | .mark "(" :: rest =>
      let (body, rest) ← readList n rest
      match rest with
      | .mark ")" :: rest => compound (.inner body, rest)
      | _ => none
    | .mark _ :: _ => none
    | .word w :: .mark "(" :: .mark ")" :: rest =>
      let name ← w.bare?
      let (body, rest) ← readCommand n (skipLineEnds rest)
      return (.define (String.ofList name) body, rest)
    | tokens =>
      if let some rest := afterKeyword? "\x7b" tokens then
        let (body, rest) ← readList n rest
        compound (body, ← afterKeyword? "\x7d" rest)
      else if let some rest := afterKeyword? "if" tokens then
        compound (← readBranch n rest)
      else if let some rest := afterKeyword? "while" tokens then
        compound (← readLoop n true rest)
      else if let some rest := afterKeyword? "until" tokens then
        compound (← readLoop n false rest)
      else if let some rest := afterKeyword? "for" tokens then
        match rest with
        | .word w :: rest =>
          let name ← w.bare?
          let (items, rest) := loopItems rest
          let (body, rest) ← readList n (← afterKeyword? "do" (skipLineEnds rest))
          compound (.each (String.ofList name) items body, ← afterKeyword? "done" rest)
        | _ => none
      else if let some rest := afterKeyword? "case" tokens then
        match rest with
        | .word subject :: rest =>
          let (arms, rest) ← readArms n (skipLineEnds (← afterKeyword? "in" (skipLineEnds rest)))
          compound (.choose subject arms, rest)
        | _ => none
      else
        let ((words, redirects), rest) := takeWords tokens
        if words.isEmpty && redirects.isEmpty then none
        else some (Command.ofWords words redirects, rest)

/-- Read a loop after its keyword. -/
def readLoop : Nat → Bool → List Token → Option (Command × List Token)
  | 0, _, _ => none
  | n + 1, wanted, tokens => do
    let (test, rest) ← readList n tokens
    let (body, rest) ← readList n (← afterKeyword? "do" rest)
    return (.loop wanted test body, ← afterKeyword? "done" rest)

/-- Read a branch after its keyword. -/
def readBranch : Nat → List Token → Option (Command × List Token)
  | 0, _ => none
  | n + 1, tokens => do
    let (test, rest) ← readList n tokens
    let (yes, rest) ← readList n (← afterKeyword? "then" rest)
    if let some rest := afterKeyword? "elif" rest then
      let (no, rest) ← readBranch n rest
      return (.branch test yes no, rest)
    else if let some rest := afterKeyword? "else" rest then
      let (no, rest) ← readList n rest
      return (.branch test yes no, ← afterKeyword? "fi" rest)
    else return (.branch test yes .nothing, ← afterKeyword? "fi" rest)

/-- Read the arms of a choice, up to its end. -/
def readArms : Nat → List Token → Option (List (List Word × Command) × List Token)
  | 0, _ => none
  | n + 1, tokens =>
    match afterKeyword? "esac" tokens with
    | some rest => some ([], rest)
    | none => do
      let tokens := match tokens with
        | .mark "(" :: rest => rest
        | tokens => tokens
      let (patterns, rest) ← takePatterns tokens
      let (body, rest) ← readList n rest
      let rest := match rest with
        | .mark ";;" :: rest => skipLineEnds rest
        | rest => rest
      let (arms, rest) ← readArms n rest
      return ((patterns, body) :: arms, rest)

end

/-- The command that tokens spell.  Between two tokens taken lie at most a handful of readers. -/
def Command.ofTokens? (tokens : List Token) : Option Command :=
  match readList (8 * tokens.length + 8) tokens with
  | some (c, []) => some c
  | _ => none

/-- The command that a text spells. -/
def readScript (text : String) : Option Command :=
  (readTokens (text.toList.length + 1) text.toList).bind Command.ofTokens?

end Orchestration.Shell
