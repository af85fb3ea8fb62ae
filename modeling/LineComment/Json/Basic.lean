import LineComment.Number.Decimal
import LineComment.Text.Wide

namespace LineComment

inductive Json
  | null
  | bool (value : Bool)
  | number (value : Decimal)
  | string (value : Wide)
  | array (items : List Json)
  | object (members : List (Wide × Json))
  deriving Inhabited

namespace Json

/-- The value of a name among the members of an object. The last one written counts. -/
def member? (name : Wide) (members : List (Wide × Json)) : Option Json :=
  members.reverse.lookup name

def string? : Json → Option Wide
  | .string s => some s
  | _ => none

def strings? : Json → Option (List Wide)
  | .array items => items.mapM string?
  | _ => none

def count? : Json → Option Int
  | .number x => x.toWhole?.map Int.ofNat
  | _ => none

end Json

end LineComment
