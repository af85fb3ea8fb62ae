import LineComment.Text.Case

namespace LineComment.CommandLine

def isMixed (s : List Char) : Bool :=
  let us := Text.units s
  Text.lower us ≠ us && us.map Text.fold ≠ us

def joinParts (capital : Bool) : List Char → List Char
  | [] => []
  | c :: s =>
    if c = '-' ∨ c = '_' then joinParts true s
    else (if capital then c.toUpper else c) :: joinParts false s

/-- A name with its parts joined, each but the first with a capital. Hyphens in front are dropped. A
name that is not in mixed case is taken in small letters. -/
def camelPart (name : List Char) : List Char :=
  let s := if isMixed name then name else Text.ofUnits (Text.lower (Text.units name))
  if '-' ∉ s ∧ '_' ∉ s then s
  else match s with
    | '_' :: rest => joinParts false rest
    | s => joinParts false (s.dropWhile (· = '-'))

def steps (name : String) : List String :=
  (name.toList.splitOn '.').map String.ofList

def camel (name : String) : String :=
  ".".intercalate ((steps name).map fun part => .ofList (camelPart part.toList))

end LineComment.CommandLine
