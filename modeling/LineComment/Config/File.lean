import LineComment.Config.Json
import LineComment.Disk
import LineComment.Json.Comments
import LineComment.Json.Parser
import LineComment.Text.Utf8

namespace LineComment.Config

inductive NotPath
  | flag (on : Bool)
  | list
  | record
  deriving DecidableEq

def NotPath.description : NotPath → String
  | .flag on => "type boolean (" ++ (if on then "true" else "false") ++ ")"
  | .list => "an instance of Array"
  | .record => "an instance of Object"

inductive Named
  | path (text : String)
  | other (found : NotPath)
  deriving DecidableEq

inductive LoadError
  | notPath (found : NotPath)
  | notFound (path : String)
  | unreadable (fault : Fault) (path : String)
  | malformed
  | invalid (reason : Invalid) (path : String)
  deriving DecidableEq

namespace LoadError

def message : LoadError → String
  | .notPath found =>
    "The \"paths[0]\" argument must be of type string. Received " ++ found.description
  | .notFound path => "Config file not found: " ++ path
  | .unreadable fault path => fault.message "open" path
  | .malformed => "Invalid JSON in config file: not a JSON text"
  | .invalid reason path => reason.message ++ " in " ++ path

def code? : LoadError → Option String
  | .notPath _ => some "ERR_INVALID_ARG_TYPE"
  | .unreadable fault _ => some fault.code
  | .notFound _ | .malformed | .invalid _ _ => none

end LoadError

def decode (path : String) (content : ByteArray) : Except LoadError Layer :=
  match Json.parse (Json.stripComments (Text.Utf8.decode content.data.toList)) with
  | none => .error .malformed
  | some json => (Layer.ofJson json).mapError (.invalid · path)

def load (disk : Disk) (path : String) (required : Bool) : Except LoadError Layer :=
  let resolved := Path.resolve disk.here path
  match disk.read resolved with
  | .ok content => decode path content
  | .error .missing => if required then .error (.notFound path) else .ok {}
  | .error fault => .error (.unreadable fault resolved)

end LineComment.Config
