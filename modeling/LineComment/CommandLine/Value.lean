import LineComment.Number.Decimal
import LineComment.Text.Blank

namespace LineComment.CommandLine

inductive Value
  | flag (on : Bool)
  | text (content : String)
  | record
  | list (items : List (Option String))
  deriving DecidableEq

inductive Kind
  | switch
  | text
  | list
  deriving DecidableEq

namespace Value

def item : Value → Option String
  | .text content => some content
  | .flag _ | .record | .list _ => none

def texts : Value → List String
  | .text content => [content]
  | .list items => items.filterMap id
  | .flag _ | .record => []

def isOn : Value → Bool
  | .flag on => on
  | .text content => content ≠ ""
  | .record | .list _ => true

def word : Value → String
  | .flag on => if on then "true" else "false"
  | .text content => content
  | .record => "[object Object]"
  | .list items => ",".intercalate (items.map (·.getD ""))

def add (kind? : Option Kind) : Option Value → Value → Value
  | some (.list items), .list more =>
    .list (items ++ if kind? = some .list then more else [none])
  | some (.list items), new => .list (items ++ [new.item])
  | none, .list items => .list items
  | none, new => if kind? = some .list then .list [new.item] else new
  | some old, new => if kind? = some .switch then new else .list [old.item, new.item]

def nest : Option Value → Value
  | none | some .record => .record
  | some (.list items) => .list (items ++ [none])
  | some old => .list [old.item, none]

end Value

def dropSign : List Char → List Char
  | '-' :: s => s
  | s => s

def exponent? : List Char → Option (Int × List Char)
  | 'e' :: '-' :: s => digits? s fun n => -n
  | 'e' :: '+' :: s => digits? s id
  | 'e' :: s => digits? s id
  | s => some (0, s)
where
  digits? (s : List Char) (sign : Int → Int) : Option (Int × List Char) :=
    if (s.takeWhile Char.isDigit).isEmpty then none
    else some (sign (digitsValue (s.takeWhile Char.isDigit)), s.dropWhile Char.isDigit)

def isDecimalZero (s : List Char) : Bool :=
  let whole := (dropSign s).takeWhile Char.isDigit
  let (point, fraction, rest) := match (dropSign s).dropWhile Char.isDigit with
    | '.' :: s => (true, s.takeWhile Char.isDigit, s.dropWhile Char.isDigit)
    | s => (false, [], s)
  if whole.isEmpty && !(point && !fraction.isEmpty) then false
  else match exponent? rest with
    | none => false
    | some (exponent, rest) =>
      rest.all Text.isBlank &&
        (Decimal.mk false (digitsValue (whole ++ fraction)) (exponent - fraction.length)).toWhole?
          = some 0

/-- Whether a text is a number that is zero. One with a leading zero is none, unless that is all of
its whole part. -/
def isZero : List Char → Bool
  | '0' :: 'x' :: s | '0' :: 'X' :: s => !s.isEmpty && s.all (· = '0')
  | '0' :: '.' :: s => isDecimalZero ('0' :: '.' :: s)
  | '0' :: _ :: _ => false
  | s => isDecimalZero s

end LineComment.CommandLine
