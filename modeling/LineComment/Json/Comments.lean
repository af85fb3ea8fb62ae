import LineComment.Text.Blank

namespace LineComment.Json

inductive CommentMode
  | outside
  | string
  | line
  | block
  deriving DecidableEq

def hide (c : Char) : Char :=
  if Text.isBlank c then c else ' '

/-- Blanks out the comments of the rest of a text, where `escaped` says whether an odd number of
backslashes precedes it. A quote opens or closes a string unless it is escaped, outside strings
too. A line comment ends before its line feed. -/
def hideComments : CommentMode → Bool → List Char → List Char
  | _, _, [] => []
  | .line, _, '\n' :: s => '\n' :: hideComments .outside false s
  | .line, _, c :: s => hide c :: hideComments .line false s
  | .block, _, '*' :: '/' :: s => ' ' :: ' ' :: hideComments .outside false s
  | .block, _, c :: s => hide c :: hideComments .block false s
  | .outside, _, '/' :: '/' :: s => ' ' :: ' ' :: hideComments .line false s
  | .outside, _, '/' :: '*' :: s => ' ' :: ' ' :: hideComments .block false s
  | .outside, escaped, '"' :: s =>
    '"' :: hideComments (if escaped then .outside else .string) false s
  | .string, escaped, '"' :: s =>
    '"' :: hideComments (if escaped then .string else .outside) false s
  | mode, escaped, c :: s => c :: hideComments mode (c = '\\' && !escaped) s

def stripComments (s : List Char) : List Char :=
  hideComments .outside false s

end LineComment.Json
