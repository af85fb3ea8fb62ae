import LineComment.Proofs.SecondRun

namespace LineComment

def Disk.refuse (disk : Disk) (report : FileReport) : FileReport :=
  match report.outcome, disk.locate report.path with
  | .modified _ _, .ok location =>
    match disk.refusal location with
    | some reason => { report with outcome := .failed (some reason) }
    | none => report
  | _, _ => report

def FileReport.isModified (report : FileReport) : Bool :=
  match report.outcome with
  | .modified _ _ => true
  | .unchanged | .failed _ => false

namespace Totals

theorem modified_add (totals : Totals) (report : FileReport) :
    (totals.add report).modified = totals.modified + if report.isModified then 1 else 0 := by
  obtain ⟨path, outcome⟩ := report
  cases outcome <;> rfl

theorem modified_ofReports (dryRun : Bool) (reports : List FileReport) :
    (ofReports dryRun reports).modified = reports.countP FileReport.isModified := by
  have h (totals : Totals) : (reports.foldl add totals).modified =
      totals.modified + reports.countP FileReport.isModified := by
    induction reports generalizing totals with
    | nil => rfl
    | cons report reports ih =>
      rw [List.foldl_cons, ih, modified_add, List.countP_cons]
      omega
  simpa [ofReports] using h { dryRun }

theorem ofReports_dryRun (dryRun dryRun' : Bool) (reports : List FileReport) :
    ofReports dryRun' reports = { ofReports dryRun reports with dryRun := dryRun' } := by
  have h (totals : Totals) : reports.foldl add { totals with dryRun := dryRun' } =
      { reports.foldl add totals with dryRun := dryRun' } := by
    induction reports generalizing totals with
    | nil => rfl
    | cons report reports ih =>
      obtain ⟨path, outcome⟩ := report
      rw [List.foldl_cons, List.foldl_cons, ← ih]
      cases outcome <;> rfl
  exact h { dryRun }

end Totals

/-- The paths do not lead to one place. -/
def Disk.Apart (disk : Disk) (path path' : String) : Prop :=
  ∀ location, disk.locate path = .ok location → disk.locate path' ≠ .ok location

structure Disk.ReadsAs (after disk : Disk) (files : List String) : Prop where
  shape : after.shape = disk.shape
  refusal : after.refusal = disk.refusal
  get? : ∀ path ∈ files, ∀ location, disk.locate path = .ok location →
    after.get? location = disk.get? location

namespace Setup

open Policy

variable {setup : Setup} {disk after : Disk} {path : String} {paths files : List String}
  {selection : Selection} {total done : Nat}

def dry (setup : Setup) : Setup :=
  { setup with dryRun := true }

def real (setup : Setup) : Setup :=
  { setup with dryRun := false }

theorem stripFile_fst_dry (setup : Setup) (disk : Disk) (path : String) :
    (setup.dry.stripFile disk path).1 = disk := by
  have hhandled := setup.dry.handled disk path
  generalize setup.dry.stripFile disk path = result at hhandled ⊢
  cases hhandled with
  | unreadable => rfl
  | plain => rfl
  | foreseen => rfl
  | refused _ _ real => cases real
  | written _ _ real => cases real

theorem stripFrom_fst_dry (setup : Setup) (disk : Disk) (total done : Nat) (files : List String) :
    (setup.dry.stripFrom disk total done files).1 = disk := by
  induction files generalizing done with
  | nil => rfl
  | cons path files ih => rw [stripFrom_cons, stripFile_fst_dry, ih]

theorem stripFile_fst_eq_or (setup : Setup) (disk : Disk) (path : String) :
    (setup.stripFile disk path).1 = disk ∨
      (setup.stripFile disk path).1 = setup.config.settle disk path := by
  have hhandled := setup.handled disk path
  generalize setup.stripFile disk path = result at hhandled ⊢
  cases hhandled with
  | unreadable => exact .inl rfl
  | plain => exact .inl rfl
  | foreseen => exact .inl rfl
  | refused => exact .inl rfl
  | written hlocate hcommented =>
    right
    rw [settle_of_locate hlocate]
    exact (settleAt_of_commented hcommented).symm

theorem readsAs_stripFile (h : after.ReadsAs disk (path :: files))
    (apart : ∀ path' ∈ files, disk.Apart path path') :
    (setup.stripFile after path).1.ReadsAs disk files := by
  have hfiles : after.ReadsAs disk files :=
    ⟨h.shape, h.refusal, fun path' hmem => h.get? path' (List.mem_cons_of_mem path hmem)⟩
  obtain hkept | hsettled := setup.stripFile_fst_eq_or after path
  · rw [hkept]
    exact hfiles
  · rw [hsettled]
    constructor
    · rw [shape_settle, h.shape]
    · rw [refusal_settle, h.refusal]
    · intro path' hmem location hlocate
      rw [get?_settle, hfiles.get? path' hmem location hlocate]
      intro text haway
      rw [Disk.locate_congr h.shape] at haway
      exact absurd hlocate (apart path' hmem location haway)

theorem stripFile_snd_congr (h : after.ReadsAs disk (path :: files)) :
    (setup.stripFile after path).2 = (setup.stripFile disk path).2 := by
  have hlocate := Disk.locate_congr h.shape path
  have hread := readText_congr h.shape (h.get? path List.mem_cons_self)
  rw [stripFile, stripFile, hread]
  cases readText disk path with
  | error reason => rfl
  | ok text =>
    simp only [Disk.write, hlocate, h.refusal]
    cases (setup.config.strip text.toList).changed with
    | false => rfl
    | true =>
      cases setup.dryRun with
      | true => rfl
      | false =>
        cases disk.locate path with
        | error fault => rfl
        | ok location =>
          dsimp only
          cases disk.refusal location <;> rfl

theorem stripFile_real (setup : Setup) (disk : Disk) (path : String) :
    (setup.real.stripFile disk path).2.1 = disk.refuse (setup.dry.stripFile disk path).2.1 ∧
      (if (setup.real.stripFile disk path).2.1.isModified then 1 else 0) +
          ((setup.real.stripFile disk path).2.2.map Event.message).countP Event.isFailedWrite =
        if (setup.dry.stripFile disk path).2.1.isModified then 1 else 0 := by
  have hhandled := setup.dry.handled disk path
  generalize setup.dry.stripFile disk path = result at hhandled ⊢
  cases hhandled with
  | unreadable hread =>
    rw [stripFile_of_error hread]
    exact ⟨rfl, rfl⟩
  | plain hread hkeep =>
    have hreal : setup.real.stripFile disk path = (disk, ⟨path, .unchanged⟩, []) :=
      stripFile_of_unchanged hread hkeep
    rw [hreal]
    exact ⟨rfl, rfl⟩
  | @foreseen location text hlocate hcommented =>
    cases refused : disk.refusal location with
    | none =>
      have hreal : setup.real.stripFile disk path =
          (disk.put location (.file (setup.config.strippedBytes text)),
            setup.config.modified path text, []) :=
        stripFile_of_write hlocate hcommented rfl refused
      rw [hreal]
      exact ⟨by simp [Disk.refuse, modified, hlocate, refused, dry], rfl⟩
    | some reason =>
      have hreal : setup.real.stripFile disk path = (disk, failure path "writing" reason) :=
        stripFile_of_refusal hlocate hcommented rfl refused
      rw [hreal]
      refine ⟨by simp [Disk.refuse, modified, hlocate, refused, failure], ?_⟩
      have hfailed := isFailedWrite_writing path reason _ List.mem_cons_self
      simp only [failure, List.map_cons, List.map_nil, List.countP_cons, List.countP_nil]
      rw [if_pos hfailed]
      rfl
  | refused _ _ real => cases real
  | written _ _ real => cases real

theorem reports_messages (log : List Message) :
    (log.map Event.message).filterMap Event.report? = [] := by
  rw [List.filterMap_map]
  exact List.filterMap_eq_nil_iff.2 fun told _ => rfl

theorem reports_stripFrom_cons (setup : Setup) (disk : Disk) (total done : Nat) (path : String)
    (files : List String) :
    (setup.stripFrom disk total done (path :: files)).2.filterMap Event.report? =
      (setup.stripFile disk path).2.1 ::
        (setup.stripFrom (setup.stripFile disk path).1 total (done + 1) files).2.filterMap
          Event.report? := by
  rw [stripFrom_cons, List.filterMap_append, reports_messages]
  rfl

theorem countP_stripFrom_cons (setup : Setup) (disk : Disk) (total done : Nat) (path : String)
    (files : List String) :
    (setup.stripFrom disk total done (path :: files)).2.countP Event.isFailedWrite =
      ((setup.stripFile disk path).2.2.map Event.message).countP Event.isFailedWrite +
        (setup.stripFrom (setup.stripFile disk path).1 total (done + 1) files).2.countP
          Event.isFailedWrite := by
  rw [stripFrom_cons, List.countP_append]
  rfl

theorem stripFrom_real (h : after.ReadsAs disk files) (apart : files.Pairwise disk.Apart) :
    (setup.real.stripFrom after total done files).2.filterMap Event.report? =
        ((setup.dry.stripFrom disk total done files).2.filterMap Event.report?).map disk.refuse ∧
      ((setup.real.stripFrom after total done files).2.filterMap Event.report?).countP
            FileReport.isModified +
          (setup.real.stripFrom after total done files).2.countP Event.isFailedWrite =
        ((setup.dry.stripFrom disk total done files).2.filterMap Event.report?).countP
          FileReport.isModified := by
  induction files generalizing after done with
  | nil => exact ⟨rfl, rfl⟩
  | cons path files ih =>
    obtain ⟨hpath, hfiles⟩ := List.pairwise_cons.1 apart
    -- The tree of the real run changes at the files that are done, and at none of those to come.
    have hdrift : (setup.real.stripFile after path).1.ReadsAs disk files :=
      readsAs_stripFile h hpath
    have htold : (setup.real.stripFile after path).2 = (setup.real.stripFile disk path).2 :=
      stripFile_snd_congr h
    obtain ⟨hreports, hcount⟩ := @ih _ (done + 1) hdrift hfiles
    obtain ⟨hreport, hmodified⟩ := setup.stripFile_real disk path
    rw [reports_stripFrom_cons, reports_stripFrom_cons, countP_stripFrom_cons, stripFile_fst_dry,
      htold]
    constructor
    · rw [hreports, hreport, List.map_cons]
    · rw [List.countP_cons, List.countP_cons]
      omega

theorem countP_select (setup : Setup) (disk : Disk) (paths : List String) :
    ((setup.select disk paths).2.map Event.message).countP Event.isFailedWrite = 0 := by
  rw [List.countP_map, List.countP_eq_zero]
  intro told hmem
  simp [Event.isFailedWrite, (setup.preparing_selectFrom disk {} paths told hmem).severity_ne]

theorem refuse_eq_self (free : ∀ location, disk.refusal location = none) (report : FileReport) :
    disk.refuse report = report := by
  rw [Disk.refuse]
  split
  next => simp [free]
  next => rfl

theorem reports_run (log : List Message) (setup : Setup) (disk : Disk) (files : List String) :
    (log.map Event.message ++ (setup.stripFiles disk files).2).filterMap Event.report? =
      (setup.stripFrom disk files.length 0 files).2.filterMap Event.report? := by
  rw [List.filterMap_append, reports_messages]
  rfl

theorem totals_eq_of_refuse {events foretold : List Event}
    (hreports : events.filterMap Event.report? =
      (foretold.filterMap Event.report?).map disk.refuse)
    (free : ∀ location, disk.refusal location = none) :
    setup.real.totals events = { setup.dry.totals foretold with dryRun := false } := by
  rw [totals, hreports, List.map_congr_left fun report _ => refuse_eq_self free report,
    List.map_id', totals]
  exact Totals.ofReports_dryRun true false _

/-- A dry run over paths that lead to different files leaves the tree as it is, and foretells what a
real run reports of each file, in order, but for the files that cannot be written. Those count as
modified in the dry run only. If every file can be written, all totals agree. -/
theorem run_foretold (hselect : (setup.select disk paths).1 = .ok selection)
    (apart : selection.files.Pairwise disk.Apart) :
    ∃ after foretold events, setup.dry.run disk paths = (.ok disk, foretold) ∧
      setup.real.run disk paths = (.ok after, events) ∧
      events.filterMap Event.report? = (foretold.filterMap Event.report?).map disk.refuse ∧
      (setup.real.totals events).modified + events.countP Event.isFailedWrite =
        (setup.dry.totals foretold).modified ∧
      (setup.real.totals events).scanned = (setup.dry.totals foretold).scanned ∧
      ((∀ location, disk.refusal location = none) →
        setup.real.totals events = { setup.dry.totals foretold with dryRun := false }) := by
  obtain ⟨log, hselect⟩ : ∃ log, setup.select disk paths = (.ok selection, log) :=
    ⟨_, Prod.ext hselect rfl⟩
  have hdry : setup.dry.select disk paths = (.ok selection, log) :=
    (setup.selectFrom_dryRun true disk {} paths).trans hselect
  have hreal : setup.real.select disk paths = (.ok selection, log) :=
    (setup.selectFrom_dryRun false disk {} paths).trans hselect
  have hlog : (log.map Event.message).countP Event.isFailedWrite = 0 := by
    have hselected := setup.countP_select disk paths
    rwa [hselect] at hselected
  have hreads : disk.ReadsAs disk selection.files := ⟨rfl, rfl, fun _ _ _ _ => rfl⟩
  obtain ⟨hreports, hcount⟩ :=
    @stripFrom_real setup disk disk selection.files selection.files.length 0 hreads apart
  have hforetold : (setup.dry.stripFiles disk selection.files).1 = disk :=
    setup.stripFrom_fst_dry disk selection.files.length 0 selection.files
  rw [← reports_run log, ← reports_run log setup.dry] at hreports
  rw [← reports_run log, ← reports_run log setup.dry] at hcount
  refine ⟨(setup.real.stripFiles disk selection.files).1,
    log.map .message ++ (setup.dry.stripFiles disk selection.files).2,
    log.map .message ++ (setup.real.stripFiles disk selection.files).2,
    run_eq_ok_iff.2 ⟨selection, log, hdry, hforetold, rfl⟩,
    run_eq_ok_iff.2 ⟨selection, log, hreal, rfl, rfl⟩, hreports, ?_, ?_,
    totals_eq_of_refuse hreports⟩
  · rw [totals, totals, Totals.modified_ofReports, Totals.modified_ofReports, ← hcount,
      List.countP_append, hlog, Nat.zero_add]
    rfl
  · rw [totals, totals, Totals.scanned_ofReports, Totals.scanned_ofReports, hreports,
      List.length_map]

def halfRefused : Disk :=
  { ofTexts [("a.rs", "x // y\n"), ("b.rs", "z // w\n")] with
    refusal := fun location => if location = ["b.rs"] then some "EACCES" else none }

theorem run_foretold_halfRefused :
    ∃ after events, ({} : Setup).real.run halfRefused ["a.rs", "b.rs"] = (.ok after, events) ∧
      events.filterMap Event.report? =
        [⟨"a.rs", .modified 1 0⟩, ⟨"b.rs", .failed (some "EACCES")⟩] ∧
      ((({} : Setup).dry.run halfRefused ["a.rs", "b.rs"]).2.filterMap Event.report? =
        [⟨"a.rs", .modified 1 0⟩, ⟨"b.rs", .modified 1 0⟩]) := by
  have hselect : (({} : Setup).select halfRefused ["a.rs", "b.rs"]).1 =
      .ok { files := ["a.rs", "b.rs"] } := rfl
  have apart : ["a.rs", "b.rs"].Pairwise halfRefused.Apart := by
    rw [List.pairwise_pair]
    intro location hlocate hlocate'
    have hsame : ["a.rs"] = ["b.rs"] := Except.ok.inj (hlocate.trans hlocate'.symm)
    exact absurd hsame (by decide)
  have hreports : (({} : Setup).dry.run halfRefused ["a.rs", "b.rs"]).2.filterMap Event.report? =
      [⟨"a.rs", .modified 1 0⟩, ⟨"b.rs", .modified 1 0⟩] := rfl
  obtain ⟨after, foretold, events, hdry, hreal, hevents, -⟩ := run_foretold hselect apart
  refine ⟨after, events, hreal, ?_, hreports⟩
  rw [hdry] at hreports
  rw [hevents, hreports]
  rfl

end Setup

end LineComment
