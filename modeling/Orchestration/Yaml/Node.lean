import Orchestration.Yaml.Layout

/-!
# The tree of a document

* `Node` — scalars, sequences and mappings with their anchors and tags, and references to
  anchored nodes; anchors are named at first and numbered once the tree is there;
* `nodes?` — the tree that tokens spell;
* `Node.number?` — the tree with numbers for anchors: a reference has to follow its anchor;
* `Node.anchored` — the anchored nodes of a tree;
* `document?` — the tree of a text that is one document.
-/

namespace Orchestration.Yaml

/-! ### Trees -/

/-- What is noted at a node. -/
structure Properties (α : Type) where
  anchor : Option α
  tag : Option Tag
  deriving DecidableEq, Repr, Inhabited

/-- A node of a document. -/
inductive Node (α : Type) where
  | scalar (props : Properties α) (style : ScalarStyle) (text : String)
  | sequence (props : Properties α) (items : List (Node α))
  | mapping (props : Properties α) (members : List (Node α × Node α))
  | reference (anchor : α)
  deriving Inhabited

namespace Node

variable {α : Type}

/-- A node that is not written. -/
def empty : Node α := .scalar ⟨none, none⟩ .plain ""

mutual

/-- The number of signs that make up a node: two around a collection, and one for anything
else. -/
def size : Node α → Nat
  | .scalar .. => 1
  | .reference _ => 1
  | .sequence _ items => sizeItems items + 2
  | .mapping _ members => sizeMembers members + 2

/-- The number of signs of items. -/
def sizeItems : List (Node α) → Nat
  | [] => 0
  | n :: rest => size n + sizeItems rest

/-- The number of signs of members. -/
def sizeMembers : List (Node α × Node α) → Nat
  | [] => 0
  | (k, v) :: rest => size k + size v + sizeMembers rest

end

end Node

/-! ### Reading a tree -/

/-- What tags mean: handles with what they stand for. -/
abbrev Handles := List (String × RawText)

/-- The handles that need no directive. -/
def commonHandles : Handles := [("!", RawText.ofString "!"), ("!!", Tag.common "")]

/-- What a tag means. -/
def tagOf? (handles : Handles) (handle : String) (suffix : RawText) : Option Tag :=
  if handle.isEmpty then some (Tag.joined [] suffix)
  else (handles.find? fun h => h.1 == handle).map fun h => Tag.joined h.2 suffix

/-- Read the anchor and the tag before a node, in either order. -/
def properties? (handles : Handles) : List Token → Option (Properties String × List Token)
  | .anchor name :: .tag handle suffix :: ts | .tag handle suffix :: .anchor name :: ts => do
    return (⟨some name, some (← tagOf? handles handle suffix)⟩, ts)
  | .anchor name :: ts => some (⟨some name, none⟩, ts)
  | .tag handle suffix :: ts => do return (⟨none, some (← tagOf? handles handle suffix)⟩, ts)
  | ts => some (⟨none, none⟩, ts)

/-- Whether a node ends here without having been written: the entry ends before it begins. -/
def endsEntry (ends : List Token) (ts : List Token) : Bool :=
  match ts with
  | [] => true
  | t :: _ => ends.contains t

/-- A node that has been read, and the tokens after it. -/
abbrev ReadNode := Option (Node String × List Token)

mutual

/-- Read a node; `block` says whether it may be a block collection, `indentless` whether it may
be a sequence that is indented no further than the mapping around it. -/
def node? (handles : Handles) (block indentless : Bool) : Nat → List Token → ReadNode
  | 0, _ => none
  | _ + 1, .alias name :: ts => some (.reference name, ts)
  | fuel + 1, ts => do
    let (props, ts) ← properties? handles ts
    match ts, block, indentless with
    | .blockEntry :: _, _, true =>
      let (items, ts) ← indentlessItems? handles fuel ts
      return (.sequence props items, ts)
    | .scalar style text :: ts, _, _ => return (.scalar props style text, ts)
    | .flowSequenceStart :: ts, _, _ =>
      let (items, ts) ← flowItems? handles true fuel ts
      return (.sequence props items, ts)
    | .flowMappingStart :: ts, _, _ =>
      let (members, ts) ← flowMembers? handles true fuel ts
      return (.mapping props members, ts)
    | .blockSequenceStart :: ts, true, _ =>
      let (items, ts) ← blockItems? handles fuel ts
      return (.sequence props items, ts)
    | .blockMappingStart :: ts, true, _ =>
      let (members, ts) ← blockMembers? handles fuel ts
      return (.mapping props members, ts)
    | ts, _, _ =>
      guard (props.anchor.isSome || props.tag.isSome)
      return (.scalar props .plain "", ts)

/-- Read the items of a block sequence. -/
def blockItems? (handles : Handles) : Nat → List Token →
    Option (List (Node String) × List Token)
  | 0, _ => none
  | fuel + 1, .blockEntry :: ts => do
    let (item, ts) ←
      if endsEntry [.blockEntry, .blockEnd] ts then some (.empty, ts)
      else node? handles true false fuel ts
    let (items, ts) ← blockItems? handles fuel ts
    return (item :: items, ts)
  | _ + 1, .blockEnd :: ts => some ([], ts)
  | _ + 1, _ => none

/-- Read the items of a block sequence that has no indentation of its own. -/
def indentlessItems? (handles : Handles) : Nat → List Token →
    Option (List (Node String) × List Token)
  | 0, _ => none
  | fuel + 1, .blockEntry :: ts => do
    let (item, ts) ←
      if endsEntry [.blockEntry, .key, .value, .blockEnd] ts then some (.empty, ts)
      else node? handles true false fuel ts
    let (items, ts) ← indentlessItems? handles fuel ts
    return (item :: items, ts)
  | _ + 1, ts => some ([], ts)

/-- Read the members of a block mapping. -/
def blockMembers? (handles : Handles) : Nat → List Token →
    Option (List (Node String × Node String) × List Token)
  | 0, _ => none
  | fuel + 1, .key :: ts => do
    let (key, ts) ← blockPart? handles fuel ts
    let (value, ts) ← match ts with
      | .value :: ts => blockPart? handles fuel ts
      | ts => some (.empty, ts)
    let (members, ts) ← blockMembers? handles fuel ts
    return ((key, value) :: members, ts)
  | _ + 1, .blockEnd :: ts => some ([], ts)
  | _ + 1, _ => none

/-- Read a key or a value of a block mapping. -/
def blockPart? (handles : Handles) : Nat → List Token → ReadNode
  | 0, _ => none
  | fuel + 1, ts =>
    if endsEntry [.key, .value, .blockEnd] ts then some (.empty, ts)
    else node? handles true true fuel ts

/-- Read the items of a flow sequence; all but the first follow a comma. -/
def flowItems? (handles : Handles) (first : Bool) : Nat → List Token →
    Option (List (Node String) × List Token)
  | 0, _ => none
  | _ + 1, .flowSequenceEnd :: ts => some ([], ts)
  | fuel + 1, ts => do
    let ts ← if first then some ts else match ts with
      | .flowEntry :: ts => some ts
      | _ => none
    match ts with
    | .flowSequenceEnd :: ts => return ([], ts)
    | .key :: ts =>
      let (item, ts) ← flowPair? handles fuel ts
      let (items, ts) ← flowItems? handles false fuel ts
      return (item :: items, ts)
    | ts =>
      let (item, ts) ← node? handles false false fuel ts
      let (items, ts) ← flowItems? handles false fuel ts
      return (item :: items, ts)

/-- Read a mapping of one member that is an item of a flow sequence. -/
def flowPair? (handles : Handles) : Nat → List Token → ReadNode
  | 0, _ => none
  | fuel + 1, ts => do
    let (key, ts) ←
      if endsEntry [.value, .flowEntry, .flowSequenceEnd] ts then some (.empty, ts.drop 1)
      else node? handles false false fuel ts
    let (value, ts) ← match ts with
      | .value :: ts =>
        if endsEntry [.flowEntry, .flowSequenceEnd] ts then some (.empty, ts)
        else node? handles false false fuel ts
      | ts => some (.empty, ts)
    return (.mapping ⟨none, none⟩ [(key, value)], ts)

/-- Read the members of a flow mapping; all but the first follow a comma. -/
def flowMembers? (handles : Handles) (first : Bool) : Nat → List Token →
    Option (List (Node String × Node String) × List Token)
  | 0, _ => none
  | _ + 1, .flowMappingEnd :: ts => some ([], ts)
  | fuel + 1, ts => do
    let ts ← if first then some ts else match ts with
      | .flowEntry :: ts => some ts
      | _ => none
    match ts with
    | .flowMappingEnd :: ts => return ([], ts)
    | .key :: ts =>
      let (key, ts) ←
        if endsEntry [.value, .flowEntry, .flowMappingEnd] ts then some (.empty, ts)
        else node? handles false false fuel ts
      let (value, ts) ← match ts with
        | .value :: ts =>
          if endsEntry [.flowEntry, .flowMappingEnd] ts then some (.empty, ts)
          else node? handles false false fuel ts
        | ts => some (.empty, ts)
      let (members, ts) ← flowMembers? handles false fuel ts
      return ((key, value) :: members, ts)
    | ts =>
      let (key, ts) ← node? handles false false fuel ts
      let (members, ts) ← flowMembers? handles false fuel ts
      return ((key, .empty) :: members, ts)

end

/-! ### Documents -/

/-- Read the directives before a document: whether the version is known, and the handles. -/
def directives? : Bool → Handles → List Token → Option (Handles × List Token)
  | versioned, handles, .version major minor :: ts => do
    guard (!versioned && major == 1 && (minor == 1 || minor == 2))
    directives? true handles ts
  | versioned, handles, .tagHandle handle start :: ts => do
    guard (!handles.any fun h => h.1 == handle)
    directives? versioned (handles ++ [(handle, start)]) ts
  | _, handles, ts => some (handles ++ commonHandles, ts)

/-- Whether a token ends a document before anything was written. -/
def endsDocument : Token → Bool
  | .version .. | .tagHandle .. | .documentStart | .documentEnd | .streamEnd => true
  | _ => false

/-- Read the node of a document. -/
def content? (handles : Handles) (ts : List Token) : ReadNode :=
  if ts.head?.any endsDocument then some (.empty, ts)
  else node? handles true false (3 * ts.length + 3) ts

/-- Whether a token belongs to directives. -/
def isDirective : Token → Bool
  | .version .. | .tagHandle .. | .documentStart => true
  | _ => false

/-- The tree that tokens spell.  A text without a document counts as an empty one; two documents
are too many. -/
def nodes? (ts : List Token) : Option (Node String) := do
  if ts.head? == some .streamEnd then return .empty
  let (tree, ts) ←
    if ts.head?.any isDirective then do
      let (handles, ts) ← directives? false [] ts
      match ts with
      | .documentStart :: ts => content? handles ts
      | _ => none
    else node? commonHandles true false (3 * ts.length + 3) ts
  guard (ts.dropWhile (· == .documentEnd) == [.streamEnd])
  return tree

/-! ### Anchors -/

namespace Node

/-- The anchors that have been met, with their numbers.  The number of a new anchor is how many
names there are, also when it takes over a name. -/
abbrev Anchors := List (String × Nat)

/-- Meet an anchor. -/
def meet (anchors : Anchors) (name : String) : Nat × Anchors :=
  let n := anchors.length
  (n, (name, n) :: anchors.filter fun a => a.1 != name)

/-- Meet the anchor of a node, if it has one. -/
def meetProps (anchors : Anchors) (p : Properties String) : Properties Nat × Anchors :=
  match p.anchor with
  | none => (⟨none, p.tag⟩, anchors)
  | some name =>
    let (n, anchors) := meet anchors name
    (⟨some n, p.tag⟩, anchors)

mutual

/-- The tree with numbers for anchors, given those met before it. -/
def number? (anchors : Anchors) : Node String → Option (Node Nat × Anchors)
  | .reference name => do
    let (_, n) ← anchors.find? fun a => a.1 == name
    return (.reference n, anchors)
  | .scalar p style text =>
    let (p, anchors) := meetProps anchors p
    some (.scalar p style text, anchors)
  | .sequence p items => do
    let (p, anchors) := meetProps anchors p
    let (items, anchors) ← numberItems? anchors items
    return (.sequence p items, anchors)
  | .mapping p members => do
    let (p, anchors) := meetProps anchors p
    let (members, anchors) ← numberMembers? anchors members
    return (.mapping p members, anchors)

/-- Items with numbers for anchors. -/
def numberItems? (anchors : Anchors) : List (Node String) → Option (List (Node Nat) × Anchors)
  | [] => some ([], anchors)
  | n :: rest => do
    let (n, anchors) ← number? anchors n
    let (rest, anchors) ← numberItems? anchors rest
    return (n :: rest, anchors)

/-- Members with numbers for anchors. -/
def numberMembers? (anchors : Anchors) :
    List (Node String × Node String) → Option (List (Node Nat × Node Nat) × Anchors)
  | [] => some ([], anchors)
  | (k, v) :: rest => do
    let (k, anchors) ← number? anchors k
    let (v, anchors) ← number? anchors v
    let (rest, anchors) ← numberMembers? anchors rest
    return ((k, v) :: rest, anchors)

end

/-- A node with its number, if it has one. -/
def ownAnchor (p : Properties Nat) (n : Node Nat) : List (Nat × Node Nat) :=
  (p.anchor.map fun a => (a, n)).toList

mutual

/-- The anchored nodes of a tree, in the order of the text. -/
def anchored : Node Nat → List (Nat × Node Nat)
  | .reference _ => []
  | .scalar p style text => ownAnchor p (.scalar p style text)
  | .sequence p items => ownAnchor p (.sequence p items) ++ anchoredItems items
  | .mapping p members => ownAnchor p (.mapping p members) ++ anchoredMembers members

/-- The anchored nodes among items. -/
def anchoredItems : List (Node Nat) → List (Nat × Node Nat)
  | [] => []
  | n :: rest => anchored n ++ anchoredItems rest

/-- The anchored nodes among members. -/
def anchoredMembers : List (Node Nat × Node Nat) → List (Nat × Node Nat)
  | [] => []
  | (k, v) :: rest => anchored k ++ anchored v ++ anchoredMembers rest

end

end Node

/-! ### Texts -/

/-- The tree of a text that is one document. -/
def document? (text : List Char) : Option (Node Nat) := do
  guard (text.all isReadable)
  let (tree, _) ← (← nodes? (← tokens? text)).number? []
  return tree

end Orchestration.Yaml
