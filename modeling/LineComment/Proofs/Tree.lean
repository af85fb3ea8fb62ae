import LineComment.Selection

/-! What is read of a tree when paths are looked up and files are chosen: its shape, which is all but
the bytes of the files and who may write them. New bytes for a file keep the shape. -/

namespace LineComment

def Entry.shape : Entry → Entry
  | .file _ => .file ByteArray.empty
  | .directory => .directory
  | .device => .device

theorem lookup_map_shape (entries : List (Location × Entry)) (location : Location) :
    (entries.map fun (found, entry) => (found, entry.shape)).lookup location =
      (entries.lookup location).map Entry.shape := by
  induction entries with
  | nil => rfl
  | cons first entries ih =>
    obtain ⟨found, entry⟩ := first
    by_cases h : location = found
    · simp [h]
    · have away : (location == found) = false := by simpa using h
      simp [List.lookup_cons, away, ih]

theorem map_shape_putEntry {location : Location} {entry : Entry}
    {entries : List (Location × Entry)}
    (h : (entries.lookup location).map Entry.shape = some entry.shape) :
    (putEntry location entry entries).map (fun (found, entry) => (found, entry.shape)) =
      entries.map fun (found, entry) => (found, entry.shape) := by
  induction entries with
  | nil => cases h
  | cons first entries ih =>
    obtain ⟨found, held⟩ := first
    by_cases same : found = location
    · subst same
      have hshape : held.shape = entry.shape := by simpa using h
      simp [putEntry, hshape]
    · have away : (location == found) = false := by simpa using Ne.symm same
      rw [List.lookup_cons, away] at h
      simpa [putEntry, same] using ih h

theorem putEntry_comm {location location' : Location} {entry entry' : Entry}
    {entries : List (Location × Entry)} (hne : location ≠ location')
    (h : (entries.lookup location).isSome = true) (h' : (entries.lookup location').isSome = true) :
    putEntry location' entry' (putEntry location entry entries) =
      putEntry location entry (putEntry location' entry' entries) := by
  induction entries with
  | nil => cases h
  | cons first entries ih =>
    obtain ⟨found, held⟩ := first
    by_cases same : found = location
    · subst same
      simp [putEntry, hne]
    · by_cases same' : found = location'
      · subst same'
        simp [putEntry, hne.symm]
      · have away : (location == found) = false := by simpa using Ne.symm same
        have away' : (location' == found) = false := by simpa using Ne.symm same'
        rw [List.lookup_cons, away] at h
        rw [List.lookup_cons, away'] at h'
        simpa [putEntry, same, same'] using ih h h'

namespace Disk

variable {disk disk' : Disk} {location location' : Location} {entry entry' : Entry}

def shape (disk : Disk) : Disk where
  here := disk.here
  entries := disk.entries.map fun (location, entry) => (location, entry.shape)

theorem get?_shape (disk : Disk) (location : Location) :
    disk.shape.get? location = (disk.get? location).map Entry.shape := by
  by_cases h : location = []
  · simp [get?, h, Entry.shape]
  · rw [get?, get?, if_neg h, if_neg h]
    exact lookup_map_shape disk.entries location

theorem isDirectory_shape (disk : Disk) (location : Location) :
    disk.shape.isDirectory location = disk.isDirectory location := by
  rw [isDirectory, isDirectory, get?_shape]
  cases disk.get? location with
  | none => rfl
  | some entry => cases entry <;> rfl

theorem follow_shape (disk : Disk) : disk.shape.follow = disk.follow := by
  funext location part
  simp [follow, isDirectory_shape, get?_shape]

theorem locate_shape (disk : Disk) (path : String) : disk.shape.locate path = disk.locate path := by
  rw [locate, locate, follow_shape]
  rfl

theorem filesBelow_shape (disk : Disk) (location : Location) :
    disk.shape.filesBelow location = disk.filesBelow location := by
  rw [filesBelow, filesBelow, shape, List.filterMap_map]
  congr 1
  funext found
  obtain ⟨place, entry⟩ := found
  cases entry <;> rfl

theorem shape_put (h : (disk.get? location).map Entry.shape = some entry.shape)
    (hroot : location ≠ []) : (disk.put location entry).shape = disk.shape := by
  rw [get?, if_neg hroot] at h
  simp [shape, put, map_shape_putEntry h]

theorem get?_put_of_ne (hne : location' ≠ location) (disk : Disk) (entry : Entry) :
    (disk.put location entry).get? location' = disk.get? location' := by
  by_cases hroot : location' = []
  · simp [get?, hroot]
  · rw [get?_put disk location location' entry hroot, if_neg hne]

theorem put_comm (hne : location ≠ location') (h : (disk.get? location).isSome = true)
    (h' : (disk.get? location').isSome = true) (hroot : location ≠ []) (hroot' : location' ≠ []) :
    (disk.put location entry).put location' entry' =
      (disk.put location' entry').put location entry := by
  rw [get?, if_neg hroot] at h
  rw [get?, if_neg hroot'] at h'
  simp [put, putEntry_comm hne h h']

theorem read_of_error {path : String} {fault : Fault} (h : disk.locate path = .error fault) :
    disk.read path = .error fault := by
  rw [read, find, h]
  rfl

theorem read_of_locate {path : String} (h : disk.locate path = .ok location) :
    disk.read path = match disk.get? location with
      | some (.file content) => .ok content
      | some .device => .ok ByteArray.empty
      | some .directory => .error .isDirectory
      | none => .error .missing := by
  rw [read, find, h]
  cases hget : disk.get? location with
  | none => simp [bind, Except.bind, hget]
  | some entry => cases entry <;> simp [bind, Except.bind, hget]

theorem read_congr {path : String} (hlocate : disk'.locate path = disk.locate path)
    (hget : ∀ location, disk.locate path = .ok location →
      disk'.get? location = disk.get? location) : disk'.read path = disk.read path := by
  cases h : disk.locate path with
  | error fault => rw [read_of_error h, read_of_error (hlocate.trans h)]
  | ok location => rw [read_of_locate h, read_of_locate (hlocate.trans h), hget location h]

theorem locate_congr (h : disk'.shape = disk.shape) (path : String) :
    disk'.locate path = disk.locate path := by
  rw [← locate_shape, h, locate_shape]

end Disk

namespace Setup

variable {disk disk' : Disk}

theorem inspect_shape (setup : Setup) (disk : Disk) (path : String) :
    setup.inspect disk.shape path = setup.inspect disk path := by
  rw [inspect, inspect, Disk.locate_shape]
  cases disk.locate path with
  | error fault => cases fault <;> rfl
  | ok location =>
    dsimp only
    rw [Disk.get?_shape]
    cases disk.get? location with
    | none => rfl
    | some entry =>
      cases entry with
      | file => rfl
      | directory => simp [Entry.shape, listing, Disk.filesBelow_shape]
      | device => rfl

theorem selectFrom_shape (setup : Setup) (disk : Disk) (selection : Selection)
    (paths : List String) :
    setup.selectFrom disk.shape selection paths = setup.selectFrom disk selection paths := by
  induction paths generalizing selection with
  | nil => rfl
  | cons path paths ih => simp only [selectFrom, inspect_shape, ih]

theorem select_congr (h : disk'.shape = disk.shape) (setup : Setup) (paths : List String) :
    setup.select disk' paths = setup.select disk paths := by
  rw [select, ← selectFrom_shape, h, selectFrom_shape, select]

end Setup

end LineComment
