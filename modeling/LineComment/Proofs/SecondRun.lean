import LineComment.Proofs.Rewriting

namespace LineComment

def FileReport.settled (report : FileReport) : FileReport :=
  match report.outcome with
  | .modified _ _ => { report with outcome := .unchanged }
  | .unchanged | .failed _ => report

def Event.settled : Event → Event
  | .file report => .file report.settled
  | .message told => .message told
  | .progress reached => .progress reached

theorem reports_map_settled (events : List Event) :
    (events.map Event.settled).filterMap Event.report? =
      (events.filterMap Event.report?).map FileReport.settled := by
  rw [List.filterMap_map, List.map_filterMap]
  congr 1
  funext event
  cases event <;> rfl

theorem map_settled_message (log : List Message) :
    (log.map Event.message).map Event.settled = log.map Event.message := by
  rw [List.map_map]
  rfl

theorem Totals.foldl_add_settled (totals : Totals) (reports : List FileReport) :
    (reports.map FileReport.settled).foldl add
        { totals with modified := 0, removedComments := 0, removedLines := 0 } =
      { reports.foldl add totals with modified := 0, removedComments := 0, removedLines := 0 } := by
  induction reports generalizing totals with
  | nil => rfl
  | cons report reports ih =>
    obtain ⟨path, outcome⟩ := report
    rw [List.map_cons, List.foldl_cons, List.foldl_cons, ← ih]
    cases outcome <;> rfl

namespace Setup

open Policy

variable {setup : Setup} {disk after : Disk} {path : String} {paths files : List String}
  {total done : Nat} {events : List Event}

theorem totals_map_settled (setup : Setup) (events : List Event) :
    setup.totals (events.map Event.settled) =
      { setup.totals events with modified := 0, removedComments := 0, removedLines := 0 } := by
  rw [totals, totals, reports_map_settled]
  exact Totals.foldl_add_settled { dryRun := setup.dryRun } _

theorem readText_congr {disk' : Disk} (hshape : disk'.shape = disk.shape)
    (hget : ∀ location, disk.locate path = .ok location →
      disk'.get? location = disk.get? location) : readText disk' path = readText disk path := by
  rw [readText, Disk.read_congr (Disk.locate_congr hshape path) hget, readText]

theorem readText_of_strippedBytes {location : Location} {text : String}
    (hlocate : disk.locate path = .ok location)
    (hfile : disk.get? location = some (.file (setup.config.strippedBytes text))) :
    readText disk path = .ok (.ofList (setup.config.strip text.toList).content) := by
  refine readText_eq_ok_iff.2 ⟨setup.config.strippedBytes text, ?_, fromUTF8?_toUTF8 _⟩
  rw [Disk.read_of_locate hlocate, hfile]

theorem readText_eq_error_of_settle {path' reason : String}
    (h : readText (setup.config.settle disk path) path' = .error reason) :
    readText disk path' = .error reason := by
  rw [← h]
  refine (readText_congr (setup.config.shape_settle disk path) fun location hlocate => ?_).symm
  apply get?_settle
  intro text hpath hcommented
  have hfile : (setup.config.settle disk path).get? location =
      some (.file (setup.config.strippedBytes text)) := by
    rw [settle_of_locate hpath, settleAt_of_commented hcommented,
      Disk.get?_put _ _ _ _ hcommented.ne_root, if_pos rfl]
  rw [readText_of_strippedBytes ((setup.config.locate_settle disk path path').trans hlocate) hfile] at h
  cases h

theorem readText_of_failed {reason : Option String}
    (written : ∀ told ∈ (setup.stripFile disk path).2.2,
      (Event.message told).isFailedWrite = false)
    (failed : (setup.stripFile disk path).2.1.outcome = .failed reason) :
    ∃ cause, reason = some cause ∧ readText disk path = .error cause := by
  have hhandled := setup.handled disk path
  generalize setup.stripFile disk path = result at hhandled written failed
  cases hhandled with
  | unreadable hread => exact ⟨_, (Outcome.failed.inj failed).symm, hread⟩
  | plain => cases failed
  | foreseen => cases failed
  | @refused _ _ reason =>
    have hfailed := isFailedWrite_writing path reason _ List.mem_cons_self
    rw [written _ List.mem_cons_self] at hfailed
    cases hfailed
  | written => cases failed

theorem readText_of_mem_stripFrom {report : FileReport} {reason : Option String}
    (real : setup.dryRun = false)
    (written : ∀ event ∈ (setup.stripFrom disk total done files).2, event.isFailedWrite = false)
    (hmem : Event.file report ∈ (setup.stripFrom disk total done files).2)
    (failed : report.outcome = .failed reason) :
    ∃ cause, reason = some cause ∧ readText disk report.path = .error cause := by
  induction files generalizing disk done with
  | nil => cases hmem
  | cons path files ih =>
    have granted := granted_of_stripFrom real written
    have hfile := stripFile_fst real (granted path List.mem_cons_self)
    rw [stripFrom_cons] at written hmem
    obtain ⟨hlog, hrest⟩ := List.forall_mem_append.1 written
    obtain hmem | hmem := List.mem_append.1 hmem
    · simp at hmem
    · obtain hreport | hmem := List.mem_cons.1 hmem
      · obtain rfl := Event.file.inj hreport
        have hpath : (setup.stripFile disk path).2.1.path = path := path_stripFile setup disk path
        rw [hpath]
        exact readText_of_failed (fun told htold => hlog _ (List.mem_map_of_mem htold)) failed
      · obtain ⟨cause, hcause, hread⟩ := ih
          (fun event hevent => hrest event (List.mem_cons_of_mem _ (List.mem_cons_of_mem _ hevent)))
          (by simpa using hmem)
        rw [hfile] at hread
        exact ⟨cause, hcause, readText_eq_error_of_settle hread⟩

theorem stripFile_again (real : setup.dryRun = false)
    (written : ∀ told ∈ (setup.stripFile disk path).2.2,
      (Event.message told).isFailedWrite = false)
    (hshape : after.shape = disk.shape)
    (kept : ∀ location, disk.locate path = .ok location →
      (∀ text, ¬setup.config.Commented (setup.stripFile disk path).1 location text) →
      after.get? location = (setup.stripFile disk path).1.get? location) :
    setup.stripFile after path =
      (after, (setup.stripFile disk path).2.1.settled, (setup.stripFile disk path).2.2) := by
  have hhandled := setup.handled disk path
  generalize setup.stripFile disk path = result at hhandled written kept ⊢
  cases hhandled with
  | unreadable hread =>
    apply stripFile_of_error
    rw [readText_congr hshape, hread]
    exact fun location hlocate =>
      kept location hlocate fun text => not_commented_of_error hread hlocate
  | plain hread hkeep =>
    refine stripFile_of_unchanged ?_ hkeep
    rw [readText_congr hshape, hread]
    exact fun location hlocate =>
      kept location hlocate fun text => not_commented_of_unchanged hread hkeep hlocate
  | foreseen _ _ dry =>
    rw [real] at dry
    cases dry
  | @refused _ _ reason =>
    have hfailed := isFailedWrite_writing path reason _ List.mem_cons_self
    rw [written _ List.mem_cons_self] at hfailed
    cases hfailed
  | @written location text hlocate hcommented =>
    have hfile := kept location hlocate (not_commented_put hcommented)
    rw [Disk.get?_put _ _ _ _ hcommented.ne_root, if_pos rfl] at hfile
    have hlocate' := (Disk.locate_congr hshape path).trans hlocate
    apply stripFile_of_unchanged (readText_of_strippedBytes hlocate' hfile)
    rw [String.toList_ofList]
    exact (setup.config.settled_ofChars_content_strip text.toList).changed_strip

theorem stripFrom_again (real : setup.dryRun = false)
    (written : ∀ event ∈ (setup.stripFrom disk total done files).2, event.isFailedWrite = false)
    (hshape : after.shape = disk.shape)
    (kept : ∀ location, after.get? location =
      (setup.stripFrom disk total done files).1.get? location) :
    setup.stripFrom after total done files =
      (after, (setup.stripFrom disk total done files).2.map Event.settled) := by
  induction files generalizing disk done with
  | nil => rfl
  | cons path files ih =>
    have granted := granted_of_stripFrom real written
    have hfile := stripFile_fst real (granted path List.mem_cons_self)
    have hfiles :
        (setup.stripFrom (setup.config.settle disk path) total (done + 1) files).1 =
          files.foldl setup.config.settle (setup.config.settle disk path) :=
      stripFrom_fst real granted.settle
    rw [stripFrom_cons] at written kept
    obtain ⟨hlog, hrest⟩ := List.forall_mem_append.1 written
    have hkept : ∀ location, disk.locate path = .ok location →
        (∀ text, ¬setup.config.Commented (setup.stripFile disk path).1 location text) →
        after.get? location = (setup.stripFile disk path).1.get? location := by
      intro location _ hnone
      rw [kept, hfile, hfiles]
      rw [hfile] at hnone
      exact get?_foldl_settle fun _ _ text _ => hnone text
    have hagain := stripFile_again real
      (fun told htold => hlog _ (List.mem_map_of_mem htold)) hshape hkept
    have hnext : setup.stripFrom after total (done + 1) files =
        (after, (setup.stripFrom (setup.stripFile disk path).1 total (done + 1) files).2.map
          Event.settled) := by
      apply ih _ _ kept
      · intro event hevent
        exact hrest event (List.mem_cons_of_mem _ (List.mem_cons_of_mem _ hevent))
      · rw [hfile, shape_settle, hshape]
    rw [stripFrom_cons, hagain, hnext, stripFrom_cons, List.map_append, map_settled_message]
    rfl

theorem stripFiles_again (real : setup.dryRun = false)
    (written : ∀ event ∈ (setup.stripFiles disk files).2, event.isFailedWrite = false)
    (hshape : after.shape = disk.shape)
    (kept : ∀ location, after.get? location = (setup.stripFiles disk files).1.get? location) :
    setup.stripFiles after files =
      (after, (setup.stripFiles disk files).2.map Event.settled) := by
  have hfrom : ∀ event ∈ (setup.stripFrom disk files.length 0 files).2,
      event.isFailedWrite = false := fun event hevent =>
    written event (List.mem_cons_of_mem _ hevent)
  rw [stripFiles, stripFrom_again real hfrom hshape kept]
  rfl

/-- After a run in which no write has failed, a second one over the same paths chooses the same
files and tells the same, but for modifications: there are none, and the totals count none. It
writes nothing, so the tree stays and it does not matter what the tree refuses to write. The files
that fail, in both runs, are those that cannot be read as text. -/
theorem run_again (real : setup.dryRun = false)
    (returned : setup.run disk paths = (.ok after, events))
    (written : ∀ event ∈ events, event.isFailedWrite = false) :
    setup.select after paths = setup.select disk paths ∧
      (∀ refusal, setup.run { after with refusal } paths =
        (.ok { after with refusal }, events.map Event.settled)) ∧
      setup.totals (events.map Event.settled) =
        { setup.totals events with modified := 0, removedComments := 0, removedLines := 0 } ∧
      ∀ report reason, .file report ∈ events → report.outcome = .failed reason →
        ∃ cause, reason = some cause ∧ readText disk report.path = .error cause := by
  obtain ⟨selection, log, hselect, rfl, rfl⟩ := run_eq_ok_iff.1 returned
  have hwritten := (List.forall_mem_append.1 written).2
  have hafter := stripFiles_fst real (granted_of_stripFiles real hwritten)
  have hshape : (setup.stripFiles disk selection.files).1.shape = disk.shape := by
    rw [hafter, shape_foldl_settle]
  refine ⟨select_congr hshape setup paths, fun refusal => ?_, setup.totals_map_settled _, ?_⟩
  · have hagain :
        setup.stripFiles { (setup.stripFiles disk selection.files).1 with refusal } selection.files =
          ({ (setup.stripFiles disk selection.files).1 with refusal },
            (setup.stripFiles disk selection.files).2.map Event.settled) :=
      stripFiles_again real hwritten hshape fun location => rfl
    refine run_eq_ok_iff.2 ⟨selection, log, ?_, ?_, ?_⟩
    · rw [← hselect]
      apply select_congr
      exact hshape
    · rw [hagain]
    · rw [hagain, List.map_append, map_settled_message]
  · intro report reason hmem failed
    have hreport : .file report ∈
        (setup.stripFrom disk selection.files.length 0 selection.files).2 := by
      simpa [stripFiles] using hmem
    exact readText_of_mem_stripFrom real
      (fun event hevent => hwritten event (List.mem_cons_of_mem _ hevent)) hreport failed

theorem run_again_unreadable :
    (({} : Setup).run
        ⟨[], [(["a.rs"], .file "x // y\n".toUTF8), (["b.rs"], .file ⟨#[0xFF]⟩)], fun _ => none⟩
        ["a.rs", "b.rs"]).1 =
        .ok ⟨[], [(["a.rs"], .file "x\n".toUTF8), (["b.rs"], .file ⟨#[0xFF]⟩)], fun _ => none⟩ ∧
      (({} : Setup).run
        ⟨[], [(["a.rs"], .file "x\n".toUTF8), (["b.rs"], .file ⟨#[0xFF]⟩)], fun _ => some "EACCES"⟩
        ["a.rs", "b.rs"]).1 =
        .ok ⟨[], [(["a.rs"], .file "x\n".toUTF8), (["b.rs"], .file ⟨#[0xFF]⟩)],
          fun _ => some "EACCES"⟩ := by
  have returned : ({} : Setup).run
      ⟨[], [(["a.rs"], .file "x // y\n".toUTF8), (["b.rs"], .file ⟨#[0xFF]⟩)], fun _ => none⟩
      ["a.rs", "b.rs"] =
        (.ok ⟨[], [(["a.rs"], .file "x\n".toUTF8), (["b.rs"], .file ⟨#[0xFF]⟩)], fun _ => none⟩,
          [.progress ⟨"Stripping comments", 0, 2⟩,
            .file ⟨"a.rs", .modified 1 0⟩, .progress ⟨"Stripping comments", 1, 2⟩,
            .message ⟨.error, "Error reading b.rs: " ++ undecodable⟩,
            .file ⟨"b.rs", .failed (some undecodable)⟩, .progress ⟨"Stripping comments", 2, 2⟩]) :=
    rfl
  obtain ⟨-, hagain, -⟩ := run_again rfl returned (by decide)
  exact ⟨by rw [returned], congrArg Prod.fst (hagain fun _ => some "EACCES")⟩

end Setup

end LineComment
