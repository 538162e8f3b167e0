import Orchestration.Text.Split

/-!
# Path texts

* `isAbsolutePath`, `joinPath` — a path seen from a directory: an absolute one stands for itself;
* `parentPath?` — the directory part of a path, without superfluous slashes and dots;
* `pathParts`, `writtenParts` — the names between slashes.
-/

namespace Orchestration

/-- Whether a path starts at the root. -/
def isAbsolutePath (path : String) : Bool := path.toList.head? == some '/'

/-- A path seen from a directory.  Joining the empty path ends the directory with a slash. -/
def joinPath (dir path : String) : String :=
  if isAbsolutePath path || dir.isEmpty then path
  else if dir.toList.getLast? == some '/' then dir ++ path
  else dir ++ "/" ++ path

theorem joinPath_absolute (dir path : String) (h : isAbsolutePath path = true) :
    joinPath dir path = path := by
  simp [joinPath, h]

/-- The names between slashes; empty where two slashes meet or a path starts or ends in one. -/
def pathParts (path : String) : List String := (splitOn '/' path.toList).map String.ofList

/-- The parts that are names or dots. -/
def writtenParts (path : String) : List String := (pathParts path).filter (· != "")

/-- The last part that is a name or a dot. -/
def lastPart (path : String) : String := (writtenParts path).getLast?.getD ""

/-- Whether a part can be left out of a path without changing where it leads. -/
def isIdlePart (part : String) : Bool := part == "" || part == "."

/-- The parts without those at the end that lead nowhere; a dot at the very beginning stays. -/
def trimParts (parts : List String) : List String :=
  match parts with
  | [] => []
  | first :: rest =>
    match (rest.reverse.dropWhile isIdlePart).reverse with
    | [] => if first == "" then [] else [first]
    | rest => first :: rest

/-- The directory part of a path; `none` for a path without a last name. -/
def parentPath? (path : String) : Option String :=
  let rooted := isAbsolutePath path
  match trimParts (pathParts path) with
  | [] => none
  | parts =>
    let above := trimParts parts.dropLast
    if above.isEmpty then some (if rooted then "/" else "")
    else some (String.ofList (joinWith '/' (above.map String.toList)))

end Orchestration
