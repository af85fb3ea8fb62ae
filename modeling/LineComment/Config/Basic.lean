import LineComment.Policy

namespace LineComment

structure Config extends Policy where
  extensions : List Wide := [".rs"]
  exclude : List Wide := []
  deriving DecidableEq

namespace Config

inductive Field
  | extensions
  | exclude
  | markers
  | trivialPhrases
  | shortCommentLength
  | headerLines
  deriving DecidableEq

def Field.name : Field → String
  | .extensions => "extensions"
  | .exclude => "exclude"
  | .markers => "markers"
  | .trivialPhrases => "trivialPhrases"
  | .shortCommentLength => "shortCommentLength"
  | .headerLines => "headerLines"

structure Layer where
  extensions : Option (List Wide) := none
  exclude : Option (List Wide) := none
  markers : Option (List Wide) := none
  trivialPhrases : Option (List Wide) := none
  shortCommentLength : Option Int := none
  headerLines : Option Int := none
  deriving DecidableEq

def defaultFile : String := "comment-trim.config.json"

def dotted (extension : Wide) : Wide :=
  if extension.units.head? = some '.'.toNat then extension else "." ++ extension

def lay (config : Config) (layer : Layer) : Config where
  extensions := layer.extensions.getD config.extensions
  exclude := layer.exclude.getD config.exclude
  markers := layer.markers.getD config.markers
  trivialPhrases := layer.trivialPhrases.getD config.trivialPhrases
  shortCommentLength := layer.shortCommentLength.getD config.shortCommentLength
  headerLines := layer.headerLines.getD config.headerLines

def resolve (layers : List Layer) : Config :=
  let config := layers.foldl lay {}
  { config with extensions := config.extensions.map dotted }

@[simp] theorem dotted_dotted (extension : Wide) :
    dotted (dotted extension) = dotted extension := by
  unfold dotted
  split
  next => rfl
  next => rfl

end Config

end LineComment
