import LineComment.Text.Wide

namespace LineComment

inductive Severity
  | info
  | debug
  | warn
  | error
  deriving DecidableEq

structure Message where
  severity : Severity
  text : Wide
  deriving DecidableEq

inductive Level
  | silent
  | info
  | debug
  deriving DecidableEq

inductive BarCall
  | start (total current : Nat)
  | update (current : Nat)
  | stop
  deriving DecidableEq

inductive Output
  | stdout (line : Wide)
  | stderr (line : Wide)
  | bar (call : BarCall)
  deriving DecidableEq

namespace Level

def all : List Level := [.silent, .info, .debug]

def name : Level → String
  | .silent => "silent"
  | .info => "info"
  | .debug => "debug"

def ofName? (name : String) : Option Level :=
  all.find? (·.name = name)

def environmentName : String := "COMMENT_TRIM_LOG_LEVEL"

def print (level : Level) (message : Message) : List Output :=
  match message.severity with
  | .info => if level = .silent then [] else [.stdout message.text]
  | .debug => if level = .debug then [.stdout ("[debug] " ++ message.text)] else []
  | .warn | .error => [.stderr message.text]

def choose (verbose : Bool) (named : Option String) : Level × List Output :=
  let asked := if verbose then .debug else .info
  match named with
  | none => (asked, [])
  | some name =>
    match ofName? name with
    | some level => (level, [])
    | none => (asked, [.stderr ("Ignoring invalid " ++ environmentName ++ "=" ++ name)])

@[simp] theorem ofName?_name (level : Level) : ofName? level.name = some level := by
  cases level <;> decide

end Level

end LineComment
