import Orchestration.CommandLine.Run

/-!
# The executable

The program works on a disk of its own.  This module fills it from the file system, lets the
program work, and writes back what has changed:

* `Host.readDisk`, `Host.writeChanges` — the way in and the way out;
* `Host.serveLines` — tools are served line by line, so that a client can wait for answers;
* `main` — the executable.
-/

namespace Orchestration.Host

open CommandLine

/-! ### The way in -/

/-- The variables that the program and its engines see. -/
def variableNames : List String :=
  ["PATH", "HOME", "USER", "LANG", "TMPDIR", "XDG_CACHE_HOME", configVariable]

/-- The variables that are set. -/
def readVariables : IO (KeyMap String) := do
  let mut vars := KeyMap.empty
  for name in variableNames do
    if let some value ← IO.getEnv name then
      vars := vars.insert name value
  return vars

/-- The place of a path. -/
def placeOf (path : String) : Place := (pathParts path).filter (!isIdlePart ·)

/-- The entry of a file.  A script counts as executable. -/
def entryOf (bytes : ByteArray) : DiskEntry :=
  let content := RawText.ofBytes bytes.toList
  .file content (Shell.interpreterOf content).isSome

/-- What lies at a place and below it.  What cannot be read is left out. -/
partial def entriesAt (place : Place) : IO (List (Place × DiskEntry)) := do
  let path := (← IO.currentDir) / Shell.Job.pathOf place
  try
    match (← path.symlinkMetadata).type with
    | .file => return [(place, entryOf (← IO.FS.readBinFile path))]
    | .dir =>
      let mut entries := [(place, DiskEntry.directory)]
      for e in ← path.readDir do
        entries := entries ++ (← entriesAt (place ++ [e.fileName]))
      return entries
    | _ => return []
  catch _ => return []

/-- The directories above a place. -/
def above (place : Place) : List Place := (List.range place.length).map place.take

/-- The places where the program and its engines work. -/
def workPlaces (cwd : Place) (s : Start) : List Place :=
  let (resolver, _) := Resolver.discover { s.surroundings with disk := ⟨[]⟩ } s.systemTmp
  let programs := (splitOn ':' ((s.vars.find? "PATH").getD "").toList).map String.ofList
  let programs := programs.filter fun dir => !Shell.systemDirs.contains dir
  cwd :: ([resolver.installRoot, joinPath s.systemTmp "stagehand"] ++ programs).map placeOf

/-- The disk with what lies at some places. -/
def readDisk (places : List Place) : IO Disk := do
  let mut disk : Disk := ⟨[]⟩
  for place in places do
    for directory in above place do
      if !directory.isEmpty then disk := disk.put directory .directory
    for (at_, entry) in ← entriesAt place do
      if !at_.isEmpty then disk := disk.put at_ entry
  return disk

/-- The present instant, as the file system dates a file that is made now. -/
def readClock : IO Timestamp := do
  let (_, path) ← IO.FS.createTempFile
  let modified := (← path.metadata).modified
  IO.FS.removeFile path
  return .ofEpochSeconds modified.sec.toNat modified.nsec.toNat

/-- Random bits. -/
def readBits : IO (Nat → UInt32) := do
  let bytes ← IO.getRandomBytes 1024
  let byte (n : Nat) : UInt32 := ((bytes.data[n % 1024]?).getD 0).toUInt32
  return fun n => (List.range 4).foldl (fun bits k => bits * 256 + byte (4 * n + k)) 0

/-- What the program is started with. -/
def readStart (arguments : List String) : IO Start := do
  let cwd := placeOf (← IO.currentDir).toString
  let now ← readClock
  let bits ← readBits
  let s : Start := ⟨arguments, ← readVariables, [], ⟨[]⟩, cwd, fun _ => now, bits⟩
  return { s with disk := ← readDisk (workPlaces cwd s) }

/-! ### The way out -/

/-- Let a file be started by everybody. -/
def everybody : IO.FileRight :=
  let may : IO.AccessRight := ⟨true, false, true⟩
  ⟨⟨true, true, true⟩, may, may⟩

/-- Put an entry where it belongs. -/
def writeEntry (place : Place) : DiskEntry → IO Unit
  | .directory => IO.FS.createDirAll (Shell.Job.pathOf place)
  | .file content executable => do
    IO.FS.writeBinFile (Shell.Job.pathOf place) ⟨content.toBytes.toArray⟩
    if executable then IO.setAccessRights (Shell.Job.pathOf place) everybody

/-- Write what has changed from one disk to another. -/
def writeChanges (before after : Disk) : IO Unit := do
  for (place, entry) in before.entries.reverse do
    if !after.contains place then
      match entry with
      | .directory => try IO.FS.removeDirAll (Shell.Job.pathOf place) catch _ => pure ()
      | .file .. => try IO.FS.removeFile (Shell.Job.pathOf place) catch _ => pure ()
  for (place, entry) in after.entries do
    if before.entry? place != some entry then writeEntry place entry

/-- Bring a program to its end. -/
def conclude (before : Disk) (f : Finish) : IO UInt32 := do
  writeChanges before f.disk
  IO.print f.output
  (← IO.getStderr).putStr f.errors
  return UInt32.ofNat f.status

/-! ### Serving -/

/-- The bytes up to the end of a line, after those already read. -/
partial def readLine (input : IO.FS.Stream) (bytes : ByteArray) : IO ByteArray := do
  let next ← input.read 1
  if next.isEmpty then return bytes
  let bytes := bytes ++ next
  if next.data.contains 10 then return bytes
  readLine input bytes

/-- Serve one line after the other, given the disk as it was written last. -/
partial def serveLines (p : Workplace) (written : Disk) (w : World Resolver) : IO UInt32 := do
  let line ← readLine (← IO.getStdin) .empty
  if line.isEmpty then
    writeChanges written w.disk
    return 0
  let served := p.serveInput (.ofBytes line.toList) w
  let status ← conclude written (.ofServed served)
  (← IO.getStdout).flush
  if status != 0 then return status
  serveLines p served.state.disk served.state

/-- Do what the arguments say. -/
def runArguments (arguments : List String) : IO UInt32 := do
  let s ← readStart arguments
  match s.prepare with
  | .error f => conclude s.disk f
  | .ok (i, p) =>
    if i.serve then serveLines p s.disk s.world else conclude s.disk (s.perform p i.action)

end Orchestration.Host

/-- Orchestrates builds and test environments as the arguments say. -/
def main (arguments : List String) : IO UInt32 :=
  Orchestration.Host.runArguments arguments
