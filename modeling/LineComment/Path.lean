import LineComment.Text.Units

namespace LineComment.Path

def parts (path : String) : List String :=
  (path.toList.splitOn '/').map String.ofList

def isAbsolute (path : String) : Bool :=
  path.toList.head? = some '/'

/-- Adds a part to the parts before it, the last of which comes first. A parent part takes one
away, or stays where there is none to take. Above the root there is nothing. -/
def push (absolute : Bool) (before : List String) (part : String) : List String :=
  if part = "" ∨ part = "." then before
  else if part = ".." then
    match before with
    | [] => if absolute then [] else [".."]
    | last :: rest => if last = ".." then ".." :: before else rest
  else part :: before

def normalParts (absolute : Bool) (path : String) : List String :=
  ((parts path).foldl (push absolute) []).reverse

def join (directory entry : String) : String :=
  let path := directory ++ "/" ++ entry
  let text := "/".intercalate (normalParts (isAbsolute path) path)
  if isAbsolute path then "/" ++ text
  else if text = "" then "."
  else text

def resolve (here : List String) (path : String) : String :=
  let start := if isAbsolute path then "" else "/".intercalate here
  "/" ++ "/".intercalate (normalParts true (start ++ "/" ++ path))

def baseName (path : String) : List Char :=
  ((path.toList.reverse.dropWhile (· = '/')).takeWhile (· ≠ '/')).reverse

/-- The extension of a path with its dot: the last dot of the base name and what follows. A dot
that begins the name begins no extension. -/
def extension (path : String) : String :=
  let name := baseName path
  let tail := (name.reverse.takeWhile (· ≠ '.')).reverse
  if tail.length + 1 < name.length ∧ name ≠ ['.', '.'] then .ofList ('.' :: tail) else ""

end LineComment.Path
