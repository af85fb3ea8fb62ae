import LineComment.Proofs.Selection
import LineComment.Proofs.Settling

namespace LineComment

def Event.isFailedWrite : Event → Bool
  | .message told =>
    told.severity = .error && (Wide.ofString "Error writing ").units.isPrefixOf told.text.units
  | .file _ | .progress _ => false

namespace Setup

open Policy

variable {setup : Setup} {disk after : Disk} {location : Location} {path text reason : String}
  {paths files : List String} {total done : Nat} {events : List Event}

theorem isFailedWrite_writing (path reason : String) :
    ∀ told ∈ (failure path "writing" reason).2, (Event.message told).isFailedWrite = true := by
  intro told htold
  obtain rfl := List.mem_singleton.1 htold
  rfl

theorem stripFile_of_error (h : readText disk path = .error reason) :
    setup.stripFile disk path = (disk, failure path "reading" reason) := by
  rw [stripFile, h]

theorem stripFile_of_unchanged (h : readText disk path = .ok text)
    (hkeep : (setup.config.strip text.toList).changed = false) :
    setup.stripFile disk path = (disk, ⟨path, .unchanged⟩, []) := by
  simp [stripFile, h, hkeep]

theorem stripFile_of_dryRun (hlocate : disk.locate path = .ok location)
    (h : setup.config.Commented disk location text) (dry : setup.dryRun = true) :
    setup.stripFile disk path = (disk, setup.config.modified path text, []) := by
  simp [stripFile, h.readText_eq hlocate, h.changed, dry, modified]

theorem stripFile_of_refusal (hlocate : disk.locate path = .ok location)
    (h : setup.config.Commented disk location text) (real : setup.dryRun = false)
    (refused : disk.refusal location = some reason) :
    setup.stripFile disk path = (disk, failure path "writing" reason) := by
  simp [stripFile, h.readText_eq hlocate, h.changed, real, Disk.write, hlocate, refused]

theorem stripFile_of_write (hlocate : disk.locate path = .ok location)
    (h : setup.config.Commented disk location text) (real : setup.dryRun = false)
    (free : disk.refusal location = none) :
    setup.stripFile disk path =
      (disk.put location (.file (setup.config.strippedBytes text)), setup.config.modified path text, []) := by
  simp [stripFile, h.readText_eq hlocate, h.changed, real, Disk.write, hlocate, free, modified,
    strippedBytes]

inductive Handled (setup : Setup) (disk : Disk) (path : String) :
    Disk × FileReport × List Message → Prop
  | unreadable {reason : String} : readText disk path = .error reason →
      Handled setup disk path (disk, failure path "reading" reason)
  | plain {text : String} : readText disk path = .ok text →
      (setup.config.strip text.toList).changed = false →
      Handled setup disk path (disk, ⟨path, .unchanged⟩, [])
  | foreseen {location : Location} {text : String} : disk.locate path = .ok location →
      setup.config.Commented disk location text → setup.dryRun = true →
      Handled setup disk path (disk, setup.config.modified path text, [])
  | refused {location : Location} {text reason : String} : disk.locate path = .ok location →
      setup.config.Commented disk location text → setup.dryRun = false →
      disk.refusal location = some reason →
      Handled setup disk path (disk, failure path "writing" reason)
  | written {location : Location} {text : String} : disk.locate path = .ok location →
      setup.config.Commented disk location text → setup.dryRun = false → disk.refusal location = none →
      Handled setup disk path
        (disk.put location (.file (setup.config.strippedBytes text)), setup.config.modified path text, [])

theorem handled (setup : Setup) (disk : Disk) (path : String) :
    setup.Handled disk path (setup.stripFile disk path) := by
  cases hread : readText disk path with
  | error reason =>
    rw [stripFile_of_error hread]
    exact .unreadable hread
  | ok text =>
    cases hchanged : (setup.config.strip text.toList).changed with
    | false =>
      rw [stripFile_of_unchanged hread hchanged]
      exact .plain hread hchanged
    | true =>
      obtain ⟨location, hlocate, h⟩ := exists_commented hread hchanged
      cases dry : setup.dryRun with
      | true =>
        rw [stripFile_of_dryRun hlocate h dry]
        exact .foreseen hlocate h dry
      | false =>
        cases refused : disk.refusal location with
        | none =>
          rw [stripFile_of_write hlocate h dry refused]
          exact .written hlocate h dry refused
        | some reason =>
          rw [stripFile_of_refusal hlocate h dry refused]
          exact .refused hlocate h dry refused

theorem path_stripFile (setup : Setup) (disk : Disk) (path : String) :
    (setup.stripFile disk path).2.1.path = path := by
  have hhandled := setup.handled disk path
  generalize setup.stripFile disk path = result at hhandled ⊢
  cases hhandled <;> rfl

theorem not_commented_of_error (h : readText disk path = .error reason)
    (hlocate : disk.locate path = .ok location) : ¬setup.config.Commented disk location text := by
  intro hcommented
  rw [hcommented.readText_eq hlocate] at h
  cases h

theorem not_commented_of_unchanged {text' : String} (h : readText disk path = .ok text')
    (hkeep : (setup.config.strip text'.toList).changed = false)
    (hlocate : disk.locate path = .ok location) : ¬setup.config.Commented disk location text := by
  intro hcommented
  rw [hcommented.readText_eq hlocate] at h
  obtain rfl := Except.ok.inj h
  rw [hcommented.changed] at hkeep
  cases hkeep

def Granted (setup : Setup) (disk : Disk) (files : List String) : Prop :=
  ∀ path ∈ files, ∀ location text, disk.locate path = .ok location →
    setup.config.Commented disk location text → disk.refusal location = none

theorem stripFile_fst (real : setup.dryRun = false)
    (granted : ∀ location text, disk.locate path = .ok location →
      setup.config.Commented disk location text → disk.refusal location = none) :
    (setup.stripFile disk path).1 = setup.config.settle disk path := by
  have hhandled := setup.handled disk path
  generalize setup.stripFile disk path = result at hhandled ⊢
  cases hhandled with
  | unreadable hread =>
    exact (settle_eq_self fun _ _ hlocate => not_commented_of_error hread hlocate).symm
  | plain hread hkeep =>
    exact (settle_eq_self fun _ _ hlocate => not_commented_of_unchanged hread hkeep hlocate).symm
  | foreseen _ _ dry =>
    rw [real] at dry
    cases dry
  | refused hlocate hcommented _ refused =>
    rw [granted _ _ hlocate hcommented] at refused
    cases refused
  | written hlocate hcommented => rw [settle_of_locate hlocate, settleAt_of_commented hcommented]

theorem refusal_eq_none (real : setup.dryRun = false)
    (written : ∀ told ∈ (setup.stripFile disk path).2.2,
      (Event.message told).isFailedWrite = false) :
    ∀ location text, disk.locate path = .ok location → setup.config.Commented disk location text →
      disk.refusal location = none := by
  intro location text hlocate hcommented
  cases refused : disk.refusal location with
  | none => rfl
  | some reason =>
    rw [stripFile_of_refusal hlocate hcommented real refused] at written
    have hfailed := isFailedWrite_writing path reason _ List.mem_cons_self
    rw [written _ List.mem_cons_self] at hfailed
    cases hfailed

theorem Granted.settle (h : setup.Granted disk (path :: files)) :
    setup.Granted (setup.config.settle disk path) files := by
  intro path' hmem location text hlocate hcommented
  rw [locate_settle] at hlocate
  rw [refusal_settle]
  exact h path' (List.mem_cons_of_mem path hmem) location text hlocate hcommented.of_settle

theorem stripFrom_cons (setup : Setup) (disk : Disk) (total done : Nat) (path : String)
    (files : List String) :
    setup.stripFrom disk total done (path :: files) =
      ((setup.stripFrom (setup.stripFile disk path).1 total (done + 1) files).1,
        (setup.stripFile disk path).2.2.map .message ++ .file (setup.stripFile disk path).2.1 ::
          .progress ⟨setup.label, done + 1, total⟩ ::
            (setup.stripFrom (setup.stripFile disk path).1 total (done + 1) files).2) := rfl

theorem stripFrom_fst_eq_foldl (setup : Setup) (disk : Disk) (total done : Nat)
    (files : List String) :
    (setup.stripFrom disk total done files).1 =
      files.foldl (fun disk path => (setup.stripFile disk path).1) disk := by
  induction files generalizing disk done with
  | nil => rfl
  | cons path files ih => rw [stripFrom_cons, ih, List.foldl_cons]

theorem stripFrom_fst (real : setup.dryRun = false) (granted : setup.Granted disk files) :
    (setup.stripFrom disk total done files).1 = files.foldl setup.config.settle disk := by
  induction files generalizing disk done with
  | nil => rfl
  | cons path files ih =>
    have hfile := stripFile_fst real (granted path List.mem_cons_self)
    rw [List.foldl_cons, stripFrom_cons, hfile]
    exact ih granted.settle

theorem granted_of_stripFrom (real : setup.dryRun = false)
    (written : ∀ event ∈ (setup.stripFrom disk total done files).2,
      event.isFailedWrite = false) : setup.Granted disk files := by
  induction files generalizing disk done with
  | nil =>
    intro path hmem
    cases hmem
  | cons path files ih =>
    rw [stripFrom_cons] at written
    obtain ⟨hlog, hrest⟩ := List.forall_mem_append.1 written
    have hfile := refusal_eq_none real fun told htold => hlog _ (List.mem_map_of_mem htold)
    have hfiles := ih fun event hevent =>
      hrest event (List.mem_cons_of_mem _ (List.mem_cons_of_mem _ hevent))
    rw [stripFile_fst real hfile] at hfiles
    intro path' hmem location text hlocate hcommented
    obtain rfl | hmem := List.mem_cons.1 hmem
    · exact hfile location text hlocate hcommented
    · by_cases hsame : disk.locate path = .ok location
      · exact hfile location text hsame hcommented
      · have hkept := get?_settle (p := setup.config.toPolicy) fun _ h => absurd h hsame
        rw [← setup.config.refusal_settle disk path]
        exact hfiles path' hmem location text ((setup.config.locate_settle disk path path').trans hlocate)
          (hcommented.congr hkept)

theorem granted_of_stripFiles (real : setup.dryRun = false)
    (written : ∀ event ∈ (setup.stripFiles disk files).2, event.isFailedWrite = false) :
    setup.Granted disk files :=
  granted_of_stripFrom real fun event hevent => written event (List.mem_cons_of_mem _ hevent)

theorem stripFiles_fst (real : setup.dryRun = false) (granted : setup.Granted disk files) :
    (setup.stripFiles disk files).1 = files.foldl setup.config.settle disk :=
  stripFrom_fst real granted

theorem Granted.of_mem_iff {files' : List String} (h : setup.Granted disk files)
    (same : ∀ file, file ∈ files' ↔ file ∈ files) : setup.Granted disk files' :=
  fun path hmem => h path ((same path).1 hmem)

theorem run_eq_ok_iff :
    setup.run disk paths = (.ok after, events) ↔
      ∃ selection log, setup.select disk paths = (.ok selection, log) ∧
        (setup.stripFiles disk selection.files).1 = after ∧
        log.map .message ++ (setup.stripFiles disk selection.files).2 = events := by
  rw [run]
  split
  next error log h => simp [h]
  next selection log h => simp [h]

def LeadsTo (disk : Disk) (files : List String) (location : Location) : Prop :=
  ∃ path ∈ files, disk.locate path = .ok location

theorem stripFiles_eq_of_mem_iff {files' : List String} (real : setup.dryRun = false)
    (same : ∀ file, file ∈ files' ↔ file ∈ files)
    (written : ∀ event ∈ (setup.stripFiles disk files).2, event.isFailedWrite = false) :
    (setup.stripFiles disk files').1 = (setup.stripFiles disk files).1 := by
  have granted := granted_of_stripFiles real written
  rw [stripFiles_fst real granted, stripFiles_fst real (granted.of_mem_iff same)]
  exact foldl_settle_eq_of_mem_iff same disk

/-- A run in which no write fails gives each file that the chosen paths lead to, and that has a
comment to remove, the stripped text of what it held at first. All else in the tree stays. The order
of the paths and their repetition do not matter. -/
theorem run_rewrites (real : setup.dryRun = false)
    (returned : setup.run disk paths = (.ok after, events))
    (written : ∀ event ∈ events, event.isFailedWrite = false) :
    ∃ selection, (setup.select disk paths).1 = .ok selection ∧
      after.shape = disk.shape ∧
      (∀ location text, LeadsTo disk selection.files location →
        setup.config.Commented disk location text →
        after.get? location =
          some (.file (String.ofList (setup.config.strip text.toList).content).toUTF8)) ∧
      (∀ location, (∀ text, LeadsTo disk selection.files location →
        ¬setup.config.Commented disk location text) → after.get? location = disk.get? location) ∧
      (∀ paths', (∀ path, path ∈ paths' ↔ path ∈ paths) →
        (setup.run disk paths').1 = .ok after) ∧
      ∀ files files', (∀ file, file ∈ files' ↔ file ∈ files) →
        (∀ event ∈ (setup.stripFiles disk files).2, event.isFailedWrite = false) →
        (setup.stripFiles disk files').1 = (setup.stripFiles disk files).1 := by
  obtain ⟨selection, log, hselect, rfl, rfl⟩ := run_eq_ok_iff.1 returned
  have hwritten := (List.forall_mem_append.1 written).2
  have hafter := stripFiles_fst real (granted_of_stripFiles real hwritten)
  refine ⟨selection, by rw [hselect], ?_, ?_, ?_, ?_, fun _ _ => stripFiles_eq_of_mem_iff real⟩
  · rw [hafter, shape_foldl_settle]
  · rintro location text ⟨path, hmem, hlocate⟩ hcommented
    rw [hafter]
    exact get?_foldl_settle_of_commented hmem hlocate hcommented
  · intro location h
    rw [hafter]
    exact get?_foldl_settle fun path hmem text hlocate => h text ⟨path, hmem, hlocate⟩
  · intro paths' same
    obtain ⟨selection', hselect', hfiles⟩ := exists_select_of_mem_iff (by rw [hselect]) same
    have hrun : setup.run disk paths' = (.ok (setup.stripFiles disk selection'.files).1, _) :=
      run_eq_ok_iff.2 ⟨selection', _, Prod.ext hselect' rfl, rfl, rfl⟩
    rw [hrun, stripFiles_eq_of_mem_iff real hfiles hwritten]

def ofTexts (texts : List (String × String)) : Disk where
  here := []
  entries := texts.map fun (name, text) => ([name], .file text.toUTF8)

theorem run_rewrites_alias :
    (({} : Setup).run (ofTexts [("a.rs", "x // y\n"), ("b.rs", "z\n")])
        ["a.rs", "./a.rs", "b.rs"]).1 =
        .ok (ofTexts [("a.rs", "x\n"), ("b.rs", "z\n")]) ∧
      (({} : Setup).run (ofTexts [("a.rs", "x // y\n"), ("b.rs", "z\n")])
        ["b.rs", "./a.rs", "b.rs", "a.rs"]).1 =
        .ok (ofTexts [("a.rs", "x\n"), ("b.rs", "z\n")]) := by
  have returned : ({} : Setup).run (ofTexts [("a.rs", "x // y\n"), ("b.rs", "z\n")])
      ["a.rs", "./a.rs", "b.rs"] =
        (.ok (ofTexts [("a.rs", "x\n"), ("b.rs", "z\n")]),
          [.progress ⟨"Stripping comments", 0, 3⟩,
            .file ⟨"a.rs", .modified 1 0⟩, .progress ⟨"Stripping comments", 1, 3⟩,
            .file ⟨"./a.rs", .unchanged⟩, .progress ⟨"Stripping comments", 2, 3⟩,
            .file ⟨"b.rs", .unchanged⟩, .progress ⟨"Stripping comments", 3, 3⟩]) := rfl
  obtain ⟨_, _, _, _, _, hpaths, _⟩ := run_rewrites rfl returned (by simp [Event.isFailedWrite])
  exact ⟨by rw [returned], hpaths _ (by simp; grind)⟩

end Setup

end LineComment
