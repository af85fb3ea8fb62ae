import LineComment.Disk
import LineComment.Log
import LineComment.Setup

namespace LineComment

inductive Absence
  | missing
  | neither
  deriving DecidableEq

def Absence.text : Absence → String
  | .missing => "path does not exist"
  | .neither => "not a file or directory"

inductive SkipReason
  | extension (wanted : List Wide)
  | absent (absence : Absence)
  deriving DecidableEq

def SkipReason.text : SkipReason → Wide
  | .extension wanted => "extension is not one of " ++ Wide.intercalate ", " wanted
  | .absent absence => absence.text

inductive SelectionError
  | absent (path : String) (absence : Absence)
  | inaccessible (path : String) (fault : Fault)
  deriving DecidableEq

namespace SelectionError

def message : SelectionError → String
  | .absent path absence => path ++ ": " ++ absence.text
  | .inaccessible path fault => fault.message "stat" path

def code? : SelectionError → Option String
  | .absent _ _ => none
  | .inaccessible _ fault => some fault.code

end SelectionError

structure Selection where
  files : List String := []
  skipped : List (String × SkipReason) := []
  deriving DecidableEq

inductive Finding
  | files (paths : List String)
  | skip (reason : SkipReason)
  deriving DecidableEq

namespace Setup

def listing (setup : Setup) (disk : Disk) (directory : String) (location : Location) :
    List String :=
  (((disk.filesBelow location).filter setup.wants).map (Path.join directory)).mergeSort
    Text.unitsLe

def passOver (setup : Setup) (path : String) (absence : Absence) :
    Except SelectionError Finding :=
  if setup.skipMissing then .ok (.skip (.absent absence)) else .error (.absent path absence)

def inspect (setup : Setup) (disk : Disk) (path : String) : Except SelectionError Finding :=
  match disk.locate path with
  | .error .missing | .error .notDirectory => setup.passOver path .missing
  | .error fault => .error (.inaccessible path fault)
  | .ok location =>
    match disk.get? location with
    | some (.file _) =>
      .ok (if setup.wants path then .files [path]
        else .skip (.extension setup.config.extensions))
    | some .directory => .ok (.files (setup.listing disk path location))
    | some .device | none => setup.passOver path .neither

def gather (setup : Setup) (selection : Selection) : List String → Selection × List Message
  | [] => (selection, [])
  | path :: paths =>
    if setup.excludes path then
      let (selection, log) := setup.gather selection paths
      (selection, ⟨.debug, "Excluded " ++ path⟩ :: log)
    else if path ∈ selection.files then
      setup.gather selection paths
    else
      setup.gather { selection with files := selection.files ++ [path] } paths

def selectFrom (setup : Setup) (disk : Disk) (selection : Selection) :
    List String → Except SelectionError Selection × List Message
  | [] => (.ok selection, [])
  | path :: paths =>
    match setup.inspect disk path with
    | .error error => (.error error, [])
    | .ok (.skip reason) =>
      let selection := { selection with skipped := selection.skipped ++ [(path, reason)] }
      let (result, log) := setup.selectFrom disk selection paths
      (result, ⟨.warn, "Skipping " ++ path ++ ": " ++ reason.text⟩ :: log)
    | .ok (.files found) =>
      let (selection, gathered) := setup.gather selection found
      let (result, log) := setup.selectFrom disk selection paths
      (result, gathered ++ log)

def select (setup : Setup) (disk : Disk) (paths : List String) :
    Except SelectionError Selection × List Message :=
  setup.selectFrom disk {} paths

end Setup

end LineComment
