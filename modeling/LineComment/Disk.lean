import LineComment.Path
import LineComment.Text.Quoted

namespace LineComment

inductive Entry
  | file (content : ByteArray)
  | directory
  | device

abbrev Location := List String

structure Disk where
  here : Location
  entries : List (Location × Entry)
  /-- Why a file cannot be written, where it cannot. -/
  refusal : Location → Option String := fun _ => none

inductive Fault
  | nullByte
  | missing
  | notDirectory
  | nameTooLong
  | isDirectory
  deriving DecidableEq

namespace Fault

def code : Fault → String
  | .nullByte => "ERR_INVALID_ARG_VALUE"
  | .missing => "ENOENT"
  | .notDirectory => "ENOTDIR"
  | .nameTooLong => "ENAMETOOLONG"
  | .isDirectory => "EISDIR"

def message (call path : String) : Fault → String
  | .nullByte =>
    "The argument 'path' must be a string, Uint8Array, or URL without null bytes. Received "
      ++ .ofList (Text.Quoted.display path.toList)
  | .missing => "ENOENT: no such file or directory, " ++ call ++ " '" ++ path ++ "'"
  | .notDirectory => "ENOTDIR: not a directory, " ++ call ++ " '" ++ path ++ "'"
  | .nameTooLong => "ENAMETOOLONG: name too long, " ++ call ++ " '" ++ path ++ "'"
  | .isDirectory => "EISDIR: illegal operation on a directory, read"

end Fault

def putEntry (location : Location) (entry : Entry) :
    List (Location × Entry) → List (Location × Entry)
  | [] => [(location, entry)]
  | found :: entries =>
    if found.1 = location then (location, entry) :: entries
    else found :: putEntry location entry entries

theorem lookup_putEntry (location found : Location) (entry : Entry)
    (entries : List (Location × Entry)) :
    (putEntry location entry entries).lookup found =
      if found = location then some entry else entries.lookup found := by
  induction entries with
  | nil =>
    by_cases h : found = location
    · simp [putEntry, h]
    · have away : (found == location) = false := by simpa using h
      simp [putEntry, List.lookup_cons, h, away]
  | cons first entries ih =>
    obtain ⟨place, held⟩ := first
    by_cases same : place = location
    · subst same
      by_cases h : found = place
      · simp [putEntry, h]
      · have away : (found == place) = false := by simpa using h
        simp [putEntry, List.lookup_cons, h, away]
    · by_cases h : found = place
      · subst h
        simp [putEntry, same]
      · have away : (found == place) = false := by simpa using h
        simp [putEntry, List.lookup_cons, same, away, ih]

namespace Disk

def get? (disk : Disk) (location : Location) : Option Entry :=
  if location = [] then some .directory else disk.entries.lookup location

def isDirectory (disk : Disk) (location : Location) : Bool :=
  match disk.get? location with
  | some .directory => true
  | some (.file _) | some .device | none => false

def follow (disk : Disk) (location : Location) (part : String) : Except Fault Location :=
  if !disk.isDirectory location then .error .notDirectory
  else if part = "" ∨ part = "." then .ok location
  else if part = ".." then .ok location.dropLast
  else if 255 < part.utf8ByteSize then .error .nameTooLong
  else if (disk.get? (location ++ [part])).isSome then .ok (location ++ [part])
  else .error .missing

def locate (disk : Disk) (path : String) : Except Fault Location :=
  if '\x00' ∈ path.toList then .error .nullByte
  else if path = "" then .error .missing
  else if 4096 ≤ path.utf8ByteSize then .error .nameTooLong
  else (Path.parts path).foldlM disk.follow (if Path.isAbsolute path then [] else disk.here)

def find (disk : Disk) (path : String) : Except Fault Entry := do
  match disk.get? (← disk.locate path) with
  | some entry => .ok entry
  | none => .error .missing

def read (disk : Disk) (path : String) : Except Fault ByteArray := do
  match ← disk.find path with
  | .file content => .ok content
  | .device => .ok ByteArray.empty
  | .directory => .error .isDirectory

def put (disk : Disk) (location : Location) (entry : Entry) : Disk :=
  { disk with entries := putEntry location entry disk.entries }

def make (disk : Disk) (location : Location) (entry : Entry) : Disk :=
  let parents := ((List.range location.length).map location.take).filter fun parent =>
    (disk.get? parent).isNone
  (parents.foldl (fun disk parent => disk.put parent .directory) disk).put location entry

def remove (disk : Disk) (location : Location) : Disk :=
  { disk with entries := disk.entries.filter fun found => !location.isPrefixOf found.1 }

def write (disk : Disk) (path : String) (content : ByteArray) : Except String Disk :=
  match disk.locate path with
  | .error fault => .error (fault.message "open" path)
  | .ok location =>
    match disk.refusal location with
    | some reason => .error reason
    | none => .ok (disk.put location (.file content))

def isHidden (name : String) : Bool :=
  name.toList.head? = some '.'

/-- The files below a location at any depth, as paths from there. Hidden entries and all below
them are left out. -/
def filesBelow (disk : Disk) (location : Location) : List String :=
  disk.entries.filterMap fun (found, entry) =>
    match entry with
    | .file _ =>
      let names := found.drop location.length
      if location.isPrefixOf found && !names.isEmpty && !names.any isHidden then
        some ("/".intercalate names)
      else
        none
    | .directory | .device => none

@[simp] theorem get?_root (disk : Disk) : disk.get? [] = some .directory := rfl

@[simp] theorem here_put (disk : Disk) (location : Location) (entry : Entry) :
    (disk.put location entry).here = disk.here := rfl

@[simp] theorem refusal_put (disk : Disk) (location : Location) (entry : Entry) :
    (disk.put location entry).refusal = disk.refusal := rfl

theorem get?_put (disk : Disk) (location found : Location) (entry : Entry) (h : found ≠ []) :
    (disk.put location entry).get? found =
      if found = location then some entry else disk.get? found := by
  simp [get?, put, lookup_putEntry, h]

end Disk

end LineComment
