import LineComment.Selection

namespace LineComment

inductive Message.Preparing : Message → Prop
  | loading : Preparing ⟨.debug, "Loading configuration..."⟩
  | loaded (path : String) : Preparing ⟨.debug, "Config loaded successfully from: " ++ path⟩
  | excluded (path : String) : Preparing ⟨.debug, "Excluded " ++ path⟩
  | skipping (path : String) (reason : SkipReason) :
      Preparing ⟨.warn, "Skipping " ++ path ++ ": " ++ reason.text⟩

theorem Message.Preparing.severity_ne {told : Message} (h : told.Preparing) :
    told.severity ≠ .error := by
  cases h <;> simp

namespace Setup

variable {setup : Setup} {disk : Disk} {selection result : Selection} {file : String}
  {paths found : List String}

def Finds (setup : Setup) (disk : Disk) (paths : List String) (file : String) : Prop :=
  setup.excludes file = false ∧
    ∃ path ∈ paths, ∃ found, setup.inspect disk path = .ok (.files found) ∧ file ∈ found

theorem mem_files_gather (setup : Setup) (selection : Selection) (found : List String) :
    file ∈ (setup.gather selection found).1.files ↔
      file ∈ selection.files ∨ setup.excludes file = false ∧ file ∈ found := by
  induction found generalizing selection with
  | nil => simp [gather]
  | cons path found ih =>
    rw [gather]
    by_cases hexcluded : setup.excludes path = true
    · rw [if_pos hexcluded]
      grind
    · rw [if_neg hexcluded]
      split <;> grind

theorem finds_cons (setup : Setup) (disk : Disk) (path : String) (paths : List String) :
    setup.Finds disk (path :: paths) file ↔
      (setup.excludes file = false ∧
        ∃ found, setup.inspect disk path = .ok (.files found) ∧ file ∈ found) ∨
      setup.Finds disk paths file := by
  simp only [Finds, List.mem_cons, exists_eq_or_imp, and_or_left]

theorem mem_files_selectFrom (h : (setup.selectFrom disk selection paths).1 = .ok result) :
    file ∈ result.files ↔ file ∈ selection.files ∨ setup.Finds disk paths file := by
  induction paths generalizing selection with
  | nil =>
    obtain rfl : selection = result := Except.ok.inj h
    simp [Finds]
  | cons path paths ih =>
    rw [selectFrom] at h
    split at h
    next => cases h
    next reason hskip =>
      rw [ih h, finds_cons]
      simp [hskip]
    next found hfound =>
      rw [ih h, finds_cons, mem_files_gather, or_assoc]
      simp [hfound]

theorem mem_files_select (h : (setup.select disk paths).1 = .ok result) :
    file ∈ result.files ↔ setup.Finds disk paths file := by
  rw [mem_files_selectFrom h]
  simp

theorem exists_selectFrom_iff :
    (∃ result, (setup.selectFrom disk selection paths).1 = .ok result) ↔
      ∀ path ∈ paths, ∃ finding, setup.inspect disk path = .ok finding := by
  induction paths generalizing selection with
  | nil => simp [selectFrom]
  | cons path paths ih =>
    rw [selectFrom, List.forall_mem_cons]
    split
    next error herror => simp [herror]
    next reason hskip => simp [hskip, ih]
    next found hfound => simp [hfound, ih]

theorem exists_select_of_mem_iff {paths' : List String} (h : (setup.select disk paths).1 = .ok result)
    (same : ∀ path, path ∈ paths' ↔ path ∈ paths) :
    ∃ result', (setup.select disk paths').1 = .ok result' ∧
      ∀ file, file ∈ result'.files ↔ file ∈ result.files := by
  have hinspect := exists_selectFrom_iff.1 ⟨result, h⟩
  obtain ⟨result', h'⟩ := exists_selectFrom_iff.2 fun path hpath => hinspect path ((same path).1 hpath)
  refine ⟨result', h', fun file => ?_⟩
  rw [mem_files_select h, mem_files_select h', Finds, Finds]
  simp only [same]

theorem gather_dryRun (setup : Setup) (dryRun : Bool) (selection : Selection)
    (found : List String) :
    ({ setup with dryRun } : Setup).gather selection found = setup.gather selection found := by
  induction found generalizing selection with
  | nil => rfl
  | cons path found ih =>
    simp only [gather, ih]
    rfl

theorem selectFrom_dryRun (setup : Setup) (dryRun : Bool) (disk : Disk) (selection : Selection)
    (paths : List String) :
    ({ setup with dryRun } : Setup).selectFrom disk selection paths =
      setup.selectFrom disk selection paths := by
  have hinspect (path : String) :
      ({ setup with dryRun } : Setup).inspect disk path = setup.inspect disk path := rfl
  induction paths generalizing selection with
  | nil => rfl
  | cons path paths ih => simp only [selectFrom, hinspect, gather_dryRun, ih]

theorem preparing_gather (setup : Setup) (selection : Selection) (found : List String) :
    ∀ told ∈ (setup.gather selection found).2, told.Preparing := by
  induction found generalizing selection with
  | nil => simp [gather]
  | cons path found ih =>
    rw [gather]
    split
    next => exact List.forall_mem_cons.2 ⟨.excluded path, ih selection⟩
    next =>
      split
      next => exact ih selection
      next => exact ih _

theorem preparing_selectFrom (setup : Setup) (disk : Disk) (selection : Selection)
    (paths : List String) :
    ∀ told ∈ (setup.selectFrom disk selection paths).2, told.Preparing := by
  induction paths generalizing selection with
  | nil => simp [selectFrom]
  | cons path paths ih =>
    rw [selectFrom]
    split
    next => simp
    next reason _ => exact List.forall_mem_cons.2 ⟨.skipping path reason, ih _⟩
    next => exact List.forall_mem_append.2 ⟨setup.preparing_gather _ _, ih _⟩

end Setup

end LineComment
