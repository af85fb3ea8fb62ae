import LineComment.Context
import LineComment.Policy

namespace LineComment

inductive Verdict
  | keep
  | cut (code : List Char)
  | drop
  deriving DecidableEq

namespace Policy

/-- The verdict on a line comment, given the code in front of it and its body. Doc and marked
comments stay. After code any other comment goes. On a line of its own it goes if it is trivial. -/
def judgeComment (p : Policy) (code body : List Char) : Verdict :=
  if isDocBody body || p.marks body then .keep
  else if !code.all Text.isBlank then .cut (Text.trimEnd code)
  else if p.isTrivial body then .drop
  else .keep

def judgeReading (p : Policy) (ctx : Context) (line : List Char) : Verdict :=
  if ctx.inBlock || ctx.isHeader p.headerLines line then .keep
  else match read ctx.mode line with
    | .comment code body => p.judgeComment code body
    | .bare _ => .keep

/-- The verdict on a line in its context. A line that looks like a doc or marked comment from its
first character on stays wherever it stands. -/
def judge (p : Policy) (ctx : Context) (line : List Char) : Verdict :=
  if (leadingBody? line).any fun body => isDocBody body || p.marks body then .keep
  else p.judgeReading ctx line

end Policy

def Verdict.text (line : List Char) : Verdict → List Char
  | .keep => line
  | .cut code => code
  | .drop => []

def Verdict.removes : Verdict → Bool
  | .keep => false
  | .cut _ | .drop => true

end LineComment
