import LineComment.Text.Case
import LineComment.Text.Wide

namespace LineComment

structure Policy where
  markers : List Wide := ["TODO", "FIXME", "NOTE", "SAFETY", "HACK", "XXX"]
  trivialPhrases : List Wide :=
    ["update", "set", "get", "return", "create", "init", "check", "validate", "handle", "process",
      "load"]
  shortCommentLength : Int := 15
  headerLines : Int := 5
  deriving DecidableEq

namespace Policy

/-- Whether a text begins with a marker, after some of the blanks in front of it. A marker may
itself begin with blanks, so no more of them are passed over than it needs. -/
def marksUnits (p : Policy) : List Nat → Bool
  | [] => false
  | u :: us =>
    p.markers.any (fun marker => !marker.isEmpty && Text.leads marker.units (u :: us)) ||
      Text.isBlankPoint u && p.marksUnits us

def marks (p : Policy) (body : List Char) : Bool :=
  p.marksUnits (Text.units body)

def isTrivial (p : Policy) (body : List Char) : Bool :=
  let text := Text.lower (Text.units (Text.trim body))
  text.length < p.shortCommentLength ||
    p.trivialPhrases.any fun phrase =>
      !phrase.isEmpty && Text.occurs (Text.lower phrase.units) text

end Policy

def isDocBody : List Char → Bool
  | '/' :: _ | '!' :: _ => true
  | _ => false

def leadingBody? (line : List Char) : Option (List Char) :=
  match Text.trimStart line with
  | '/' :: '/' :: body => some body
  | _ => none

end LineComment
