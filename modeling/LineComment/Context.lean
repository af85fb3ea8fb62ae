import LineComment.Number.Decimal
import LineComment.Reading
import LineComment.Text.Blank

namespace LineComment

structure Context where
  inBlock : Bool := false
  pastHeader : Bool := false
  index : Int := 0
  deriving DecidableEq

namespace Context

def initial : Context := {}

def mode (ctx : Context) : Mode :=
  if ctx.inBlock then .block else .code

def looksHeader (ctx : Context) (headerLines : Int) (line : List Char) : Bool :=
  match Text.trim line with
  | [] => ctx.index < headerLines
  | '/' :: '*' :: _ | '*' :: _ => true
  | _ => false

def isHeader (ctx : Context) (headerLines : Int) (line : List Char) : Bool :=
  !ctx.pastHeader && !ctx.inBlock && ctx.looksHeader headerLines line

def next (ctx : Context) (headerLines : Int) (line : List Char) : Context where
  inBlock := (read ctx.mode line).mode = .block
  pastHeader := ctx.pastHeader || !ctx.inBlock && !ctx.looksHeader headerLines line
  index := roundWhole (ctx.index + 1)

@[simp] theorem next_index (ctx : Context) (headerLines : Int) (line : List Char) :
    (ctx.next headerLines line).index = roundWhole (ctx.index + 1) := rfl

theorem pastHeader_next (ctx : Context) (headerLines : Int) (line : List Char)
    (h : ctx.pastHeader = true) : (ctx.next headerLines line).pastHeader = true := by
  simp [next, h]

end Context

end LineComment
