import LineComment.CommandLine.Grammar
import LineComment.CommandLine.Name

namespace LineComment.CommandLine

structure Given where
  grammar : Grammar
  words : List String := []
  values : List (String × Value) := []
  /-- The unknown names with a hyphen. From its first use on such a name stands for the same name
  with its parts joined, too. -/
  hyphened : List String := []
  deriving DecidableEq

namespace Given

def value? (given : Given) (name : String) : Option Value :=
  given.values.lookup name

def others (given : Given) (name : String) : List String :=
  match given.grammar.find? name with
  | some known => known.names.filter (· ≠ name)
  | none => if name ∈ given.hyphened then [camel name] else []

def kind? (given : Given) (name : String) : Option Kind :=
  (given.grammar.findTyped? (name :: given.others name)).map Known.kind

def standard? (given : Given) (name : String) : Option (List String) :=
  (given.grammar.find? name).bind Known.standard

def lone (given : Given) (name : String) : Value :=
  match given.kind? name, given.standard? name with
  | some .switch, _ | none, none => .flag true
  | _, some texts => .list (texts.map some)
  | some .text, none | some .list, none => .text ""

/-- What is kept of a value. A switch is on only for the word `true`, and an unknown name reads
numbers, of which zero counts as nothing. -/
def keep (given : Given) (name : String) : Value → Value
  | .text content =>
    match given.kind? name with
    | some .switch => .flag (content = "true")
    | some .text | some .list => .text content
    | none => if name ≠ "_" ∧ isZero content.toList then .flag false else .text content
  | value => value

def learn (given : Given) (name : String) : Given :=
  if '-' ∈ name.toList ∧ given.others name = [] then
    { given with hyphened := name :: given.hyphened }
  else given

/-- Lets one name hold a value more. With dots it is a name inside another one, and a lone
underscore is the name of the words. -/
def assign (given : Given) (value : Value) (name : String) : Given :=
  let (outer, inside) := match steps name with
    | outer :: _ :: _ => (outer, true)
    | _ => (name, false)
  if outer = "_" then
    { given with words := given.words ++ [if inside then Value.record.word else value.word] }
  else
    let held := if inside then Value.nest (given.value? outer)
      else Value.add (given.kind? outer) (given.value? outer) value
    { given with values := (outer, held) :: given.values }

/-- Gives a value to a name and to the others that it stands for. What a name inside another one
is given holds inside the names that the other one stands for, too. -/
def give (given : Given) (name : String) (value : Value) : Given :=
  let given := given.learn name
  let others := given.others name
  let beside := match steps name with
    | outer :: inner :: more =>
      ((given.others outer).map fun other => ".".intercalate (other :: inner :: more)).filter
        (· ∉ others)
    | _ => []
  (name :: others ++ beside).foldl (·.assign (given.keep name value) ·) given

end Given

end LineComment.CommandLine
