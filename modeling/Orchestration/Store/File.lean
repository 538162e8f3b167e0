import Orchestration.Disk.Basic
import Orchestration.Json.Print
import Orchestration.Json.Source
import Orchestration.Store.Operation

/-!
# The store in a file

All records lie in one file, which is read before every operation and written anew after every
change.  A missing or empty file holds no records; one that cannot be read is never written.

* `StoreDocument.toText` and `StoreDocument.ofText` — the file's content;
* `FileStore` — the file of a store;
* `FileStore.perform` — an operation on the disk.
-/

namespace Orchestration

namespace StoreDocument

/-- The content of a file with these records. -/
def toText (d : StoreDocument) : RawText := d.toJson.prettyChars 0 |>.map .char

/-- The records of a file's content; nothing at all is no records. -/
def ofText (now : Timestamp) (t : RawText) : Except StoreError StoreDocument :=
  if t.isEmpty then .ok (.empty now)
  else match decodeText (StoreDocument.read now) t with
    | .ok d => .ok d
    | .error e => .error (.serialization e.message)

end StoreDocument

/-- A store in the file at a path. -/
structure FileStore where
  path : String
  deriving DecidableEq, Inhabited

namespace FileStore

variable {α : Type}

/-- The records on a disk; a missing file holds none. -/
def load (s : FileStore) (now : Timestamp) (cwd : Place) (d : Disk) :
    Except StoreError StoreDocument :=
  match d.read cwd s.path with
  | .ok content => StoreDocument.ofText now content
  | .error f => if f.isMissing then .ok (.empty now) else .error (.io f)

/-- The directory of the file. -/
def directory (s : FileStore) : String :=
  match parentPath? s.path with
  | some dir => if dir.isEmpty then "." else dir
  | none => "."

/-- Write the records to a new file that takes the place of the old one, making its directory. -/
def save (s : FileStore) (records : StoreDocument) (cwd : Place) (d : Disk) :
    Except StoreError Unit × Disk :=
  match d.makeDirs cwd s.directory with
  | (.error f, d) => (.error (.io f), d)
  | (.ok (), d) =>
    match d.replace cwd s.path records.toText with
    | .ok d => (.ok (), d)
    | .error f => (.error (.io f), d)

/-- Perform an operation. -/
def perform (s : FileStore) (op : StoreOp α) (now : Timestamp) (cwd : Place) (d : Disk) :
    Except StoreError α × Disk :=
  match s.load now cwd d with
  | .error e => (.error e, d)
  | .ok records =>
    match op.apply now records with
    | .error e => (.error e, d)
    | .ok (a, records) =>
      if op.mutates then
        match s.save { records with lastUpdated := now } cwd d with
        | (.ok (), d) => (.ok a, d)
        | (.error e, d) => (.error e, d)
      else (.ok a, d)

end FileStore

end Orchestration
