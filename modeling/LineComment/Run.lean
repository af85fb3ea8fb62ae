import LineComment.Totals
import LineComment.Selection
import LineComment.Source

namespace LineComment

structure Progress where
  label : String
  done : Nat
  total : Nat
  deriving DecidableEq

inductive Event
  | message (told : Message)
  | file (report : FileReport)
  | progress (reached : Progress)
  deriving DecidableEq

def Event.message? : Event → Option Message
  | .message told => some told
  | .file _ | .progress _ => none

def Event.report? : Event → Option FileReport
  | .file report => some report
  | .message _ | .progress _ => none

def undecodable : String := "The encoded data was not valid for encoding utf-8"

namespace Setup

def failure (path action reason : String) : FileReport × List Message :=
  (⟨path, .failed (some reason)⟩, [⟨.error, "Error " ++ action ++ " " ++ path ++ ": " ++ reason⟩])

def readText (disk : Disk) (path : String) : Except String String :=
  match disk.read path with
  | .error fault => .error (fault.message "open" path)
  | .ok content =>
    match String.fromUTF8? content with
    | none => .error undecodable
    | some text => .ok text

def stripFile (setup : Setup) (disk : Disk) (path : String) :
    Disk × FileReport × List Message :=
  match readText disk path with
  | .error reason => (disk, failure path "reading" reason)
  | .ok text =>
    let stripped := setup.config.strip text.toList
    let modified : FileReport :=
      ⟨path, .modified stripped.removedComments stripped.removedLines⟩
    if !stripped.changed then (disk, ⟨path, .unchanged⟩, [])
    else if setup.dryRun then (disk, modified, [])
    else
      match disk.write path (String.ofList stripped.content).toUTF8 with
      | .error reason => (disk, failure path "writing" reason)
      | .ok disk => (disk, modified, [])

def label (setup : Setup) : String :=
  if setup.dryRun then "Checking files" else "Stripping comments"

def stripFrom (setup : Setup) (disk : Disk) (total done : Nat) :
    List String → Disk × List Event
  | [] => (disk, [])
  | path :: paths =>
    let (disk, report, log) := setup.stripFile disk path
    let (after, events) := setup.stripFrom disk total (done + 1) paths
    (after, log.map .message
      ++ .file report :: .progress ⟨setup.label, done + 1, total⟩ :: events)

def stripFiles (setup : Setup) (disk : Disk) (paths : List String) : Disk × List Event :=
  let (after, events) := setup.stripFrom disk paths.length 0 paths
  (after, .progress ⟨setup.label, 0, paths.length⟩ :: events)

def run (setup : Setup) (disk : Disk) (paths : List String) :
    Except SelectionError Disk × List Event :=
  match setup.select disk paths with
  | (.error error, log) => (.error error, log.map .message)
  | (.ok selection, log) =>
    let (after, events) := setup.stripFiles disk selection.files
    (.ok after, log.map .message ++ events)

def totals (setup : Setup) (events : List Event) : Totals :=
  .ofReports setup.dryRun (events.filterMap Event.report?)

end Setup

end LineComment
