import LineComment.CommandLine.Invocation

/-! The program on a real file tree. The part of the tree that a command line names is copied, the
session runs on the copy, and the files it changes are written back. -/

namespace LineComment.Program

def pathOf (location : Location) : String :=
  "/" ++ "/".intercalate location

def copyEntry (disk : Disk) (location : Location) : IO Disk := do
  if (disk.get? location).isSome then
    return disk
  try
    let path ← IO.FS.realPath (pathOf location)
    let entry := match (← path.metadata).type with
      | .dir => Entry.directory
      | .file => Entry.file ByteArray.empty
      | _ => Entry.device
    return disk.put location entry
  catch _ =>
    return disk

def copyBelow : Nat → Disk → Location → IO Disk
  | 0, disk, _ => return disk
  | depth + 1, disk, location => do
    if !disk.isDirectory location then
      return disk
    let path ← IO.FS.realPath (pathOf location)
    let mut copy := disk
    for found in ← path.readDir do
      if !Disk.isHidden found.fileName then
        let inner := location ++ [found.fileName]
        copy ← copyEntry copy inner
        copy ← copyBelow depth copy inner
    return copy

def copyPath (disk : Disk) (path : String) : IO (Disk × Location) := do
  let mut copy := disk
  let mut location := if Path.isAbsolute path then [] else disk.here
  for part in Path.parts path do
    if part = ".." then
      location := location.dropLast
    else if part ≠ "" && part ≠ "." then
      location := location ++ [part]
      copy ← copyEntry copy location
  return (copy, location)

def copyContent (disk : Disk) (path : String) : IO Disk := do
  let (copy, location) ← copyPath disk path
  match copy.get? location with
  | some (.file _) =>
    try
      return copy.put location (.file (← IO.FS.readBinFile (pathOf location)))
    catch _ =>
      return copy.remove location
  | _ => return copy

def copyFor (request : Request) (disk : Disk) : IO Disk := do
  let mut copy := disk
  if let .path path := request.configPath then
    copy ← copyContent copy (Path.resolve disk.here path)
  for path in request.paths do
    let (next, location) ← copyPath copy path
    copy ← copyBelow 4096 next location
  match request.prepare copy with
  | (.ok (_, files), _) =>
    for file in files do
      copy ← copyContent copy file
  | (.error _, _) => pure ()
  return copy

def writeBack (before after : Disk) : IO (List (Location × String)) := do
  let mut refused := []
  for (location, entry) in after.entries do
    if let (.file content, some (.file earlier)) := (entry, before.get? location) then
      if content.data ≠ earlier.data then
        try
          IO.FS.writeBinFile (pathOf location) content
        catch error =>
          refused := (location, toString error) :: refused
  return refused

def secondsText (ms : Nat) : String :=
  let hundredths := (ms + 5) / 10
  let fraction := hundredths % 100
  toString (hundredths / 100) ++ "." ++ (if fraction < 10 then "0" else "") ++ toString fraction

def display : Output → IO Unit
  | .stdout line => IO.println line.text
  | .stderr line => IO.eprintln line.text
  | .bar _ => pure ()

end LineComment.Program

open LineComment Program in
/-- Runs the program. A file that cannot be written makes the session start over on the copy,
where it now refuses to be written. -/
def main (words : List String) : IO UInt32 := do
  let start ← IO.monoMsNow
  let named ← IO.getEnv Level.environmentName
  let here := (Path.parts (← IO.currentDir).toString).filter (· ≠ "")
  let mut disk : Disk := { here, entries := [] }
  disk := (← copyPath disk (pathOf here)).1
  if let .session request := CommandLine.invocation words then
    disk ← copyFor request disk
  let report := CommandLine.run words named "0.00" disk
  let refused ← writeBack disk report.disk
  disk := { disk with refusal := fun location => refused.lookup location }
  let seconds := secondsText ((← IO.monoMsNow) - start)
  let report := CommandLine.run words named seconds disk
  for output in report.output do
    display output
  return UInt32.ofNat report.exitCode
