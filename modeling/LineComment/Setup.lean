import LineComment.Config.Basic
import LineComment.Path
import LineComment.Text.Case

namespace LineComment

structure Setup where
  config : Config := {}
  dryRun : Bool := false
  skipMissing : Bool := false
  deriving DecidableEq

namespace Setup

def wants (setup : Setup) (path : String) : Bool :=
  Wide.ofString (Path.extension path) ∈ setup.config.extensions

def excludes (setup : Setup) (path : String) : Bool :=
  setup.config.exclude.any fun part => Text.occurs part.units (Text.units path.toList)

end Setup

end LineComment
