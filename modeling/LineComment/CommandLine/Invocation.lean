import LineComment.CommandLine.Help
import LineComment.CommandLine.Words
import LineComment.Session

namespace LineComment.CommandLine

inductive Invocation
  | help (explicit : Bool)
  | version
  | session (request : Request)
  deriving DecidableEq

def commandName : String := "$0"

namespace Given

def isOn (given : Given) (name : String) : Bool :=
  ((given.value? name).map Value.isOn).getD false

def texts (given : Given) (name : String) : List String :=
  ((given.value? name).map Value.texts).getD []

def asksHelp (given : Given) : Bool :=
  given.isOn "help" || given.words.getLast? = some "help"

def configFile (given : Given) : Option Config.Named :=
  (given.value? "config").map fun
    | .text path => .path path
    | .flag on => .other (.flag on)
    | .list _ => .other .list
    | .record => .other .record

/-- The paths that are named, as words or else by the option. Each word is read like a text of the
option, so that one that looks like an option stands for the default paths. -/
def paths (given : Given) (words : List String) : List String :=
  let named :=
    if words = [] then
      if given.value? "paths" = none then defaultPaths else given.texts "paths"
    else
      (parse (.all .list) (words.flatMap fun word => ["--paths", word])).texts "paths"
  if named = [] then defaultPaths else named

def request (given : Given) (words : List String) : Request where
  paths := given.paths words
  dryRun := given.isOn "dryRun"
  exclude := (given.texts "exclude").map .ofString
  extensions := (given.texts "ext").map .ofString
  configFile := given.configFile
  skipMissing := given.isOn "skipMissing"
  progress := given.isOn "progress"
  verbose := given.isOn "verbose"

end Given

/-- What the words of a command line ask for. They are read for the options about the program first,
and then with all options known. After the name of the command the paths are a list. -/
def invocation (words : List String) : Invocation :=
  let first := parse .general words
  let explicit := first.words.head? = some commandName
  if first.asksHelp && !explicit then .help false
  else
    let given := parse (.all (if explicit then .list else .text)) words
    if given.asksHelp then .help explicit
    else if given.isOn "version" then .version
    else .session (given.request (given.words.drop (if explicit then 1 else 0)))

def run (words : List String) (named : Option String) (seconds : String) (disk : Disk) : Report :=
  match invocation words with
  | .help explicit => ⟨0, [.stdout (helpText explicit)], disk⟩
  | .version => ⟨0, [.stdout versionText], disk⟩
  | .session request => request.run named seconds disk

end LineComment.CommandLine
