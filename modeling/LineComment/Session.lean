import LineComment.Config.File
import LineComment.Run

namespace LineComment

structure Request where
  paths : List String := ["src"]
  dryRun : Bool := false
  exclude : List Wide := []
  extensions : List Wide := []
  configFile : Option Config.Named := none
  skipMissing : Bool := false
  progress : Bool := false
  verbose : Bool := false
  deriving DecidableEq

structure Report where
  exitCode : Nat
  output : List Output
  disk : Disk

inductive SessionError
  | config (error : Config.LoadError)
  | selection (error : SelectionError)
  deriving DecidableEq

def SessionError.message : SessionError → String
  | .config error => error.message
  | .selection error => error.message

/-- The progress bar while files are processed. Messages of errors wait until it has stopped. -/
structure Bar where
  started : Bool := false
  deferred : List Message := []

namespace Request

def layer (request : Request) (file : Config.Layer) : Config.Layer :=
  { file with
    exclude := some (file.exclude.getD [] ++ request.exclude)
    extensions :=
      if request.extensions = [] then file.extensions
      else some (request.extensions.map Config.dotted) }

def setup (request : Request) (file : Config.Layer) : Setup where
  config := .resolve [request.layer file]
  dryRun := request.dryRun
  skipMissing := request.skipMissing

def configPath (request : Request) : Config.Named :=
  request.configFile.getD (.path Config.defaultFile)

def fileMessage (request : Request) (bar : Bool) (report : FileReport) : List Message :=
  let text := report.line request.dryRun
  match report.outcome with
  | .modified _ _ => [⟨if bar then .debug else .info, text⟩]
  | .unchanged => [⟨.debug, text⟩]
  | .failed _ => []

def showPlain (request : Request) (level : Level) : Event → List Output
  | .message told => level.print told
  | .file report => (request.fileMessage false report).flatMap level.print
  | .progress _ => []

def showBar (request : Request) (level : Level) (bar : Bar) : Event → Bar × List Output
  | .message told =>
    if told.severity = .error then ({ bar with deferred := bar.deferred ++ [told] }, [])
    else (bar, level.print told)
  | .file report => (bar, (request.fileMessage true report).flatMap level.print)
  | .progress reached =>
    let moved :=
      if bar.started then [.bar (.update reached.done)]
      else level.print ⟨.info, reached.label⟩
        ++ [.bar (.start reached.total reached.done)]
    let stopped := if reached.total = reached.done then [.bar .stop] else []
    ({ bar with started := true }, moved ++ stopped)

def showAllBar (request : Request) (level : Level) (bar : Bar) : List Event → List Output
  | [] => bar.deferred.flatMap level.print
  | event :: events =>
    let (bar, shown) := request.showBar level bar event
    shown ++ request.showAllBar level bar events

def drawsBar (request : Request) (level : Level) : Bool :=
  request.progress && level ≠ .silent

def showAll (request : Request) (level : Level) (events : List Event) : List Output :=
  if request.drawsBar level then request.showAllBar level {} events
  else events.flatMap (request.showPlain level)

def announce (request : Request) (setup : Setup) (files : List String) : List Message :=
  let noun := if files.length = 1 then "file" else "files"
  ⟨.info, "🚀 Processing " ++ natText files.length ++ " " ++ noun ++ " ("
    ++ Wide.intercalate ", " setup.config.extensions ++ ")..."⟩
  :: if request.dryRun then [⟨.info, "(DRY RUN - no files will be modified)"⟩] else []

def conclude (totals : Totals) (seconds : String) : List Message :=
  [⟨.info, ""⟩, ⟨.info, totals.summary⟩, ⟨.debug, "Completed in " ++ seconds ++ "s"⟩]

def loadConfig (request : Request) (disk : Disk) :
    Except Config.LoadError Config.Layer × List Message :=
  let opening : Message := ⟨.debug, "Loading configuration..."⟩
  match request.configPath with
  | .other found => (.error (.notPath found), [opening])
  | .path path =>
    let file := Config.load disk path request.configFile.isSome
    (file, opening :: match file with
      | .error _ => []
      | .ok layer =>
        if layer = {} then [] else [⟨.debug, "Config loaded successfully from: " ++ path⟩])

def prepare (request : Request) (disk : Disk) :
    Except SessionError (Setup × List String) × List Message :=
  let (file, loading) := request.loadConfig disk
  match file with
  | .error error => (.error (.config error), loading)
  | .ok layer =>
    let setup := request.setup layer
    let (selected, selecting) := setup.select disk request.paths
    (match selected with
      | .error error => .error (.selection error)
      | .ok selection => .ok (setup, selection.files),
      loading ++ selecting)

def runAt (request : Request) (level : Level) (seconds : String) (disk : Disk) : Report :=
  let (prepared, log) := request.prepare disk
  let opening := log.flatMap level.print
  match prepared with
  | .error error =>
    { exitCode := 1
      output := opening ++ level.print ⟨.error, "❌ Error: " ++ error.message⟩
      disk }
  | .ok (setup, files) =>
    let (after, events) := setup.stripFiles disk files
    { exitCode := 0
      output := opening ++ (request.announce setup files).flatMap level.print
        ++ request.showAll level events
        ++ (conclude (setup.totals events) seconds).flatMap level.print
      disk := after }

def run (request : Request) (named : Option String) (seconds : String) (disk : Disk) : Report :=
  let (level, warnings) := Level.choose request.verbose named
  let report := request.runAt level seconds disk
  { report with output := warnings ++ report.output }

end Request

end LineComment
