import Orchestration.Disk.Fault
import Orchestration.Disk.Path
import Orchestration.Text.Raw

/-!
# The file system

A disk is a set of places with what lies there.  A place is a list of names from the root, so
two paths that lead to one place are equal there:

* `Disk.entry?` — what lies at a place; the root is always a directory;
* `Disk.walk` — where a path leads, every directory on the way being there;
* `read`, `write`, `replace`, `makeDirs`, `removeFile`, `removeDir`, `kind?` — the operations,
  which refuse like the system does;
* `Disk.below` — the paths below a directory.
-/

namespace Orchestration

/-- The names from the root to a place. -/
abbrev Place := List String

/-- What lies at a place. -/
inductive DiskEntry where
  | directory
  | file (content : RawText) (executable : Bool)
  deriving DecidableEq, Inhabited

namespace DiskEntry

/-- Whether the entry is a directory. -/
def isDirectory : DiskEntry → Bool
  | .directory => true
  | .file .. => false

end DiskEntry

/-- The places of a file system, each listed once. -/
structure Disk where
  entries : List (Place × DiskEntry)
  deriving Inhabited

namespace Disk

/-! ### Places -/

/-- What lies at a place. -/
def entry? (d : Disk) (place : Place) : Option DiskEntry :=
  if place.isEmpty then some .directory
  else (d.entries.find? fun e => e.1 == place).map (·.2)

/-- Whether anything lies at a place. -/
def contains (d : Disk) (place : Place) : Bool := (d.entry? place).isSome

/-- Put an entry at a place, replacing what lay there. -/
def put (d : Disk) (place : Place) (entry : DiskEntry) : Disk :=
  ⟨d.entries.filter (fun e => e.1 != place) ++ [(place, entry)]⟩

/-- Whether a place is another one or lies below it. -/
def isAtOrBelow (top place : Place) : Bool := top.isPrefixOf place

/-- Whether a place lies below another one. -/
def isBelow (top place : Place) : Bool := isAtOrBelow top place && place != top

/-- Remove a place and everything below it. -/
def cut (d : Disk) (top : Place) : Disk :=
  ⟨d.entries.filter fun e => !isAtOrBelow top e.1⟩

/-- Remove everything below a place. -/
def cutBelow (d : Disk) (top : Place) : Disk :=
  ⟨d.entries.filter fun e => !isBelow top e.1⟩

theorem mem_cut {d : Disk} {top : Place} {e : Place × DiskEntry} :
    e ∈ (d.cut top).entries ↔ e ∈ d.entries ∧ isAtOrBelow top e.1 = false := by
  simp [cut]

/-! ### Following a path -/

/-- Names longer than this many bytes are refused. -/
def maxNameBytes : Nat := 255

/-- Paths of this many bytes are refused. -/
def maxPathBytes : Nat := 4096

/-- Follow parts from a place.  Whatever a part is looked up in has to be a directory; the last
name need not exist. -/
def walk (d : Disk) : Place → List String → Except SystemFault Place
  | here, [] => .ok here
  | here, part :: rest =>
    match d.entry? here with
    | none => .error .notFound
    | some (.file ..) => .error .notADirectory
    | some .directory =>
      if part == "" || part == "." then walk d here rest
      else if part == ".." then walk d here.dropLast rest
      else if maxNameBytes < part.utf8ByteSize then .error .nameTooLong
      else walk d (here ++ [part]) rest

/-- Why a path text is refused before it is followed. -/
def refuse? (path : String) : Option SystemFault :=
  if path.isEmpty then some .notFound
  else if path.toList.contains (Char.ofNat 0) then some .invalidName
  else if maxPathBytes ≤ path.utf8ByteSize then some .nameTooLong
  else none

/-- Where a path starts, seen from a working directory. -/
def startOf (cwd : Place) (path : String) : Place := if isAbsolutePath path then [] else cwd

/-- Where a path leads, seen from a working directory. -/
def locate (d : Disk) (cwd : Place) (path : String) : Except SystemFault Place :=
  match refuse? path with
  | some f => .error f
  | none => d.walk (startOf cwd path) (pathParts path)

/-- The directory in which the last part of a path is looked up, and that part; there is none in
a path to the root. -/
def holder (d : Disk) (cwd : Place) (path : String) :
    Except SystemFault (Place × Option String) :=
  match refuse? path with
  | some f => .error f
  | none =>
    match d.walk (startOf cwd path) (writtenParts path).dropLast with
    | .error f => .error f
    | .ok above =>
      match d.entry? above with
      | none => .error .notFound
      | some (.file ..) => .error .notADirectory
      | some .directory => .ok (above, (writtenParts path).getLast?)

/-- What lies where a path leads. -/
def kind? (d : Disk) (cwd : Place) (path : String) : Except SystemFault DiskEntry :=
  match d.locate cwd path with
  | .error f => .error f
  | .ok place =>
    match d.entry? place with
    | some entry => .ok entry
    | none => .error .notFound

/-- Whether a path leads to a file. -/
def isFile (d : Disk) (cwd : Place) (path : String) : Bool :=
  match d.kind? cwd path with
  | .ok (.file ..) => true
  | _ => false

/-- Whether a path leads to a directory. -/
def isDirectory (d : Disk) (cwd : Place) (path : String) : Bool :=
  match d.kind? cwd path with
  | .ok .directory => true
  | _ => false

/-! ### Files -/

/-- The content of a file. -/
def read (d : Disk) (cwd : Place) (path : String) : Except SystemFault RawText :=
  match d.kind? cwd path with
  | .error f => .error f
  | .ok .directory => .error .isADirectory
  | .ok (.file content _) => .ok content

/-- Write a file whose directory exists. -/
def write (d : Disk) (cwd : Place) (path : String) (content : RawText)
    (executable : Bool := false) : Except SystemFault Disk :=
  match d.locate cwd path with
  | .error f => .error f
  | .ok place =>
    match d.entry? place with
    | some .directory => .error .isADirectory
    | some (.file _ mode) => .ok (d.put place (.file content (mode || executable)))
    | none =>
      match d.entry? place.dropLast with
      | some .directory => .ok (d.put place (.file content executable))
      | some (.file ..) => .error .notADirectory
      | none => .error .notFound

/-- Put a new file where a path leads, in place of a file that may lie there.  The path has to
end in a name, without a slash behind it. -/
def replace (d : Disk) (cwd : Place) (path : String) (content : RawText) :
    Except SystemFault Disk :=
  match d.holder cwd path with
  | .error f => .error f
  | .ok (_, none) => .error .busy
  | .ok (above, some name) =>
    if name == "." || name == ".." then .error .busy
    else if maxNameBytes < name.utf8ByteSize then .error .nameTooLong
    else if path.toList.getLast? == some '/' then .error .notADirectory
    else match d.entry? (above ++ [name]) with
      | some .directory => .error .isADirectory
      | _ => .ok (d.put (above ++ [name]) (.file content false))

theorem replace_empty (d : Disk) (cwd : Place) (content : RawText) :
    d.replace cwd "" content = .error .notFound := by
  simp [replace, holder, refuse?]

/-! ### Directories -/

/-- Make every directory on the way along parts.  What was made before a refusal stays. -/
def makeAlong (d : Disk) : Place → List String → Except SystemFault Unit × Disk
  | _, [] => (.ok (), d)
  | here, part :: rest =>
    if part == "" || part == "." then makeAlong d here rest
    else if part == ".." then makeAlong d here.dropLast rest
    else if maxNameBytes < part.utf8ByteSize then (.error .nameTooLong, d)
    else
      match d.entry? (here ++ [part]) with
      | some .directory => makeAlong d (here ++ [part]) rest
      | some (.file ..) =>
        (.error (if rest.all isIdlePart then .alreadyExists else .notADirectory), d)
      | none => makeAlong (d.put (here ++ [part]) .directory) (here ++ [part]) rest

/-- Make a directory and all directories above it.  The empty path needs nothing. -/
def makeDirs (d : Disk) (cwd : Place) (path : String) : Except SystemFault Unit × Disk :=
  if path.isEmpty then (.ok (), d)
  else match refuse? path with
    | some f => (.error f, d)
    | none => d.makeAlong (startOf cwd path) (pathParts path)

/-- Remove a file. -/
def removeFile (d : Disk) (cwd : Place) (path : String) : Except SystemFault Disk :=
  match d.locate cwd path with
  | .error f => .error f
  | .ok place =>
    match d.entry? place with
    | none => .error .notFound
    | some .directory => .error .isADirectory
    | some (.file ..) => .ok (d.cut place)

/-- Remove an empty directory.  The path has to end in a name. -/
def removeEmpty (d : Disk) (cwd : Place) (path : String) : Except SystemFault Disk :=
  match d.holder cwd path with
  | .error f => .error f
  | .ok (_, none) => .error .busy
  | .ok (above, some name) =>
    if name == "." then .error .invalidArgument
    else if name == ".." then .error .notEmpty
    else if !d.contains (above ++ [name]) then .error .notFound
    else .ok (d.cut (above ++ [name]))

/-- Remove a directory with everything in it, and the directory itself last.  If the path leads
nowhere by then, the directory stays without a complaint. -/
def removeDir (d : Disk) (cwd : Place) (path : String) : Except SystemFault Unit × Disk :=
  match d.locate cwd path with
  | .error f => (.error f, d)
  | .ok place =>
    match d.entry? place with
    | none => (.error .notFound, d)
    | some (.file ..) => (.error .notADirectory, d)
    | some .directory =>
      let emptied := d.cutBelow place
      match emptied.removeEmpty cwd path with
      | .ok d => (.ok (), d)
      | .error f => (if f.isMissing then .ok () else .error f, emptied)

/-! ### Listing -/

/-- The paths below a place, relative to it, directories with a slash at their end. -/
def below (d : Disk) (top : Place) : List String :=
  d.entries.filterMap fun (place, entry) =>
    if isBelow top place then
      let path := "/".intercalate (place.drop top.length)
      some (if entry.isDirectory then path ++ "/" else path)
    else none

end Disk

end Orchestration
