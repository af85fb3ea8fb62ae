import LineComment.Json.Basic
import LineComment.Text.Units

namespace LineComment.Json

def isSpace (c : Char) : Bool :=
  c = ' ' || c = '\t' || c = '\n' || c = '\r'

def skipSpace (s : List Char) : List Char :=
  s.dropWhile isSpace

def hexDigit? (c : Char) : Option Nat :=
  if '0' ≤ c ∧ c ≤ '9' then some (c.toNat - '0'.toNat)
  else if 'a' ≤ c ∧ c ≤ 'f' then some (c.toNat - 'a'.toNat + 10)
  else if 'A' ≤ c ∧ c ≤ 'F' then some (c.toNat - 'A'.toNat + 10)
  else none

def escape? : Char → Option Char
  | '"' => some '"'
  | '\\' => some '\\'
  | '/' => some '/'
  | 'b' => some '\x08'
  | 'f' => some '\x0c'
  | 'n' => some '\n'
  | 'r' => some '\r'
  | 't' => some '\t'
  | _ => none

def readString : List Char → Option (List Nat × List Char)
  | [] => none
  | '"' :: s => some ([], s)
  | '\\' :: 'u' :: a :: b :: c :: d :: s => do
    let unit := (((← hexDigit? a) * 16 + (← hexDigit? b)) * 16 + (← hexDigit? c)) * 16
      + (← hexDigit? d)
    let (units, rest) ← readString s
    return (unit :: units, rest)
  | '\\' :: e :: s => do
    let c ← escape? e
    let (units, rest) ← readString s
    return (Text.unitsOf c ++ units, rest)
  | c :: s =>
    if c = '\\' ∨ c.toNat < 0x20 then none
    else do
      let (units, rest) ← readString s
      return (Text.unitsOf c ++ units, rest)

def readDigits (s : List Char) : Option (List Char × List Char) :=
  match s.span Char.isDigit with
  | ([], _) => none
  | found => some found

def readWhole : List Char → Option (List Char × List Char)
  | '0' :: s => some (['0'], s)
  | s => readDigits s

def readFraction : List Char → Option (List Char × List Char)
  | '.' :: s => readDigits s
  | s => some ([], s)

def readExponent : List Char → Option (Int × List Char)
  | c :: s =>
    if c = 'e' ∨ c = 'E' then
      match s with
      | '-' :: s => (readDigits s).map fun (digits, rest) => (-(digitsValue digits : Int), rest)
      | '+' :: s => (readDigits s).map fun (digits, rest) => (digitsValue digits, rest)
      | s => (readDigits s).map fun (digits, rest) => (digitsValue digits, rest)
    else
      some (0, c :: s)
  | [] => some (0, [])

def readNumber (negative : Bool) (s : List Char) : Option (Json × List Char) := do
  let (whole, s) ← readWhole s
  let (fraction, s) ← readFraction s
  let (exponent, s) ← readExponent s
  return (.number ⟨negative, digitsValue (whole ++ fraction), exponent - fraction.length⟩, s)

mutual

def readValue : Nat → List Char → Option (Json × List Char)
  | 0, _ => none
  | fuel + 1, s =>
    match skipSpace s with
    | 'n' :: 'u' :: 'l' :: 'l' :: s => some (.null, s)
    | 't' :: 'r' :: 'u' :: 'e' :: s => some (.bool true, s)
    | 'f' :: 'a' :: 'l' :: 's' :: 'e' :: s => some (.bool false, s)
    | '"' :: s => (readString s).map fun (units, rest) => (.string ⟨units⟩, rest)
    | '[' :: s =>
      match skipSpace s with
      | ']' :: s => some (.array [], s)
      | s => (readItems fuel s).map fun (items, rest) => (.array items, rest)
    | '{' :: s =>
      match skipSpace s with
      | '}' :: s => some (.object [], s)
      | s => (readMembers fuel s).map fun (members, rest) => (.object members, rest)
    | '-' :: s => readNumber true s
    | s => readNumber false s

def readItems : Nat → List Char → Option (List Json × List Char)
  | 0, _ => none
  | fuel + 1, s => do
    let (item, s) ← readValue fuel s
    match skipSpace s with
    | ']' :: s => return ([item], s)
    | ',' :: s =>
      let (items, s) ← readItems fuel s
      return (item :: items, s)
    | _ => none

def readMembers : Nat → List Char → Option (List (Wide × Json) × List Char)
  | 0, _ => none
  | fuel + 1, s =>
    match skipSpace s with
    | '"' :: s => do
      let (units, s) ← readString s
      match skipSpace s with
      | ':' :: s =>
        let (value, s) ← readValue fuel s
        match skipSpace s with
        | '}' :: s => return ([(⟨units⟩, value)], s)
        | ',' :: s =>
          let (members, s) ← readMembers fuel s
          return ((⟨units⟩, value) :: members, s)
        | _ => none
      | _ => none
    | _ => none

end

/-- The value that a whole text writes. Each reader takes at least every second step off the text,
so twice its length is enough fuel. -/
def parse (s : List Char) : Option Json := do
  let (value, rest) ← readValue (2 * s.length + 2) s
  if (skipSpace rest).isEmpty then some value else none

end LineComment.Json
