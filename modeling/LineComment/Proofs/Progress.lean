import LineComment.Proofs.Levels

namespace LineComment

def Event.isWatched : Event → Bool
  | .message _ => false
  | .file _ | .progress _ => true

namespace Setup

variable {setup : Setup} {disk : Disk} {files : List String} {total done : Nat}

def watched (setup : Setup) (reports : List FileReport) : List Event :=
  .progress ⟨setup.label, 0, reports.length⟩ ::
    (reports.zipIdx 1).flatMap fun (report, done) =>
      [.file report, .progress ⟨setup.label, done, reports.length⟩]

theorem isWatched_messages (log : List Message) :
    (log.map Event.message).filter Event.isWatched = [] := by
  rw [List.filter_map]
  exact List.map_eq_nil_iff.2 (List.filter_eq_nil_iff.2 fun _ _ => Bool.false_ne_true)

theorem watched_stripFrom (setup : Setup) (disk : Disk) (total done : Nat) (files : List String) :
    (setup.stripFrom disk total done files).2.filter Event.isWatched =
      (((setup.stripFrom disk total done files).2.filterMap Event.report?).zipIdx (done + 1)).flatMap
        fun (report, done) => [.file report, .progress ⟨setup.label, done, total⟩] := by
  induction files generalizing disk done with
  | nil => rfl
  | cons path files ih =>
    rw [reports_stripFrom_cons, List.zipIdx_cons, List.flatMap_cons, ← ih, stripFrom_cons,
      List.filter_append, isWatched_messages]
    rfl

theorem watched_stripFiles (setup : Setup) (disk : Disk) (files : List String) :
    (setup.stripFiles disk files).2.filter Event.isWatched =
      setup.watched ((setup.stripFiles disk files).2.filterMap Event.report?) := by
  have hfiles := setup.watched_stripFrom disk files.length 0 files
  have hlength := setup.length_reports_stripFrom disk files.length 0 files
  have hreports : (setup.stripFiles disk files).2.filterMap Event.report? =
      (setup.stripFrom disk files.length 0 files).2.filterMap Event.report? := rfl
  rw [watched, hreports, hlength, ← hfiles]
  rfl

theorem getElem?_reports_stripFrom (setup : Setup) (disk : Disk) (total done : Nat)
    (files : List String) (i : Nat) :
    ((setup.stripFrom disk total done files).2.filterMap Event.report?)[i]? =
      files[i]?.map fun path => (setup.stripFile
        ((files.take i).foldl (fun disk path => (setup.stripFile disk path).1) disk) path).2.1 := by
  induction files generalizing disk done i with
  | nil => rfl
  | cons path files ih =>
    rw [reports_stripFrom_cons]
    cases i with
    | zero => rfl
    | succ i => simp [ih]

theorem getElem?_reports_stripFiles (setup : Setup) (disk : Disk) (files : List String) (i : Nat) :
    ((setup.stripFiles disk files).2.filterMap Event.report?)[i]? =
      files[i]?.map fun path =>
        (setup.stripFile (setup.stripFiles disk (files.take i)).1 path).2.1 := by
  have htree : (setup.stripFiles disk (files.take i)).1 =
      (files.take i).foldl (fun disk path => (setup.stripFile disk path).1) disk :=
    setup.stripFrom_fst_eq_foldl disk _ 0 _
  rw [htree]
  exact setup.getElem?_reports_stripFrom disk files.length 0 files i

end Setup

def Setup.NoLabel (setup : Setup) (told : Message) : Prop :=
  told.severity = .info → told.text ≠ setup.label

section Label

variable {request : Request} {setup : Setup} {disk : Disk} {level : Level} {told : Message}
  {text : Wide} {start : String} {log : List Message} {files : List String}

theorem Setup.ne_label (h : (Wide.ofString start).units <+: text.units)
    (apart : ∀ dryRun, Apart start ({ dryRun } : Setup).label) : text ≠ setup.label := by
  rintro rfl
  exact (apart setup.dryRun).1 h

theorem Setup.NoLabel.not_mem_print (h : setup.NoLabel told) :
    .stdout setup.label ∉ level.print told := by
  obtain ⟨severity, text⟩ := told
  cases severity with
  | info =>
    have hne : Wide.ofString setup.label ≠ text := Ne.symm (h rfl)
    simp only [Level.print]
    split <;> simp [hne]
  | debug =>
    have hplain : (Wide.ofString setup.label).isDetail = false := setup.clear_label rfl
    have hne : Wide.ofString setup.label ≠ "[debug] " ++ text := by
      intro hsame
      rw [hsame, isDetail_mark] at hplain
      cases hplain
    simp only [Level.print]
    split <;> simp [hne]
  | warn | error => simp [Level.print]

theorem Setup.label_not_mem_lines (h : ∀ told ∈ log, setup.NoLabel told) :
    .stdout setup.label ∉ (log.map Notice.line).flatMap level.display := by
  rw [flatMap_display_line]
  intro hmem
  obtain ⟨told, htold, hprint⟩ := List.mem_flatMap.1 hmem
  exact (h told htold).not_mem_print hprint

theorem Message.Preparing.ne_info (h : told.Preparing) : told.severity ≠ .info := by
  cases h <;> simp

namespace Request

theorem noLabel_announce (request : Request) (setup : Setup) (files : List String) :
    ∀ told ∈ request.announce setup files, setup.NoLabel told := by
  rw [announce]
  refine List.forall_mem_cons.2 ⟨fun _ => ?_, ?_⟩
  · exact Setup.ne_label (by simp) (by decide +kernel : ∀ _, Apart "🚀 Processing " _)
  · split
    next =>
      refine List.forall_mem_singleton.2 fun _ => ?_
      exact Setup.ne_label (List.prefix_refl _) (by decide +kernel)
    next => simp

theorem noLabel_conclude (setup : Setup) (totals : Totals) (seconds : String) :
    ∀ told ∈ conclude totals seconds, setup.NoLabel told := by
  obtain ⟨rest, hrest⟩ := totals.exists_summary_eq
  refine List.forall_mem_cons.2 ⟨fun _ => ?_, List.forall_mem_cons.2 ⟨fun _ => ?_, ?_⟩⟩
  · have hne : ∀ dryRun, (Wide.ofString "") ≠ ({ dryRun } : Setup).label := by decide +kernel
    exact hne setup.dryRun
  · rw [hrest]
    split
    next => exact Setup.ne_label (by simp) (by decide +kernel : ∀ _, Apart dryRunMark _)
    next => exact Setup.ne_label (by simp) (by decide +kernel : ∀ _, Apart "Summary:" _)
  · exact List.forall_mem_singleton.2 fun hinfo => by cases hinfo

theorem noLabel_of_ne (h : told.severity ≠ .info) : setup.NoLabel told :=
  fun hinfo => absurd hinfo h

end Request

end Label

theorem Level.stderr_of_mem_choose (verbose : Bool) (named : Option String) :
    ∀ shown ∈ (Level.choose verbose named).2, ∃ line, shown = .stderr line := by
  cases named with
  | none => simp [choose]
  | some name =>
    rw [choose]
    split <;> simp

namespace Request

variable {request : Request} {setup : Setup} {disk : Disk} {level : Level} {named : Option String}
  {seconds : String} {files : List String}

theorem level_ne_silent (h : request.drawsBar level = true) : level ≠ .silent := by
  rintro rfl
  simp [drawsBar] at h

theorem severity_fileMessage_bar {report : FileReport} {told : Message}
    (h : told ∈ request.fileMessage true report) : told.severity = .debug := by
  obtain ⟨path, outcome⟩ := report
  cases outcome with
  | modified comments lines | unchanged => exact congrArg Message.severity (List.mem_singleton.1 h)
  | failed reason => cases h

theorem display_moveNotices_info (request : Request) (reached : FileReport × Nat) :
    (request.moveNotices reached).flatMap Level.info.display = [.bar (.update reached.2)] := by
  obtain ⟨report, done⟩ := reached
  have hnone : (request.fileMessage true report).flatMap Level.info.print = [] := by
    refine List.flatMap_eq_nil_iff.2 fun told htold => ?_
    simp [Level.print, severity_fileMessage_bar htold]
  rw [moveNotices, List.flatMap_append, flatMap_display_line, hnone]
  rfl

theorem display_moves_info (request : Request) (reports : List FileReport) :
    ((reports.zipIdx 1).flatMap request.moveNotices).flatMap Level.info.display =
      (List.range' 1 reports.length).map fun done => .bar (.update done) := by
  rw [List.flatMap_assoc, List.flatMap_congr fun reached _ => request.display_moveNotices_info reached,
    ← List.zipIdx_map_snd 1 reports, List.map_map, List.map_eq_flatMap]
  rfl

theorem calls_moves (request : Request) (reports : List FileReport) :
    ((reports.zipIdx 1).flatMap request.moveNotices).filterMap Notice.call? =
      (List.range' 1 reports.length).map .update := by
  have hmove (reached : FileReport × Nat) :
      (request.moveNotices reached).filterMap Notice.call? = [.update reached.2] := by
    rw [moveNotices, List.filterMap_append, calls_lines]
    rfl
  rw [List.filterMap_flatMap, List.flatMap_congr fun reached _ => hmove reached,
    ← List.zipIdx_map_snd 1 reports, List.map_map, List.map_eq_flatMap]
  rfl

theorem label_not_mem_moves (request : Request) (level : Level) (reports : List FileReport) :
    .stdout setup.label ∉
      ((reports.zipIdx 1).flatMap request.moveNotices).flatMap level.display := by
  intro hmem
  rw [List.flatMap_assoc] at hmem
  obtain ⟨⟨report, done⟩, -, hshown⟩ := List.mem_flatMap.1 hmem
  rw [moveNotices, List.flatMap_append, List.mem_append] at hshown
  obtain hshown | hshown := hshown
  · refine Setup.label_not_mem_lines (fun told htold => noLabel_of_ne ?_) hshown
    simp [severity_fileMessage_bar htold]
  · cases List.mem_singleton.1 hshown

theorem exists_transcript_bar (h : (request.prepare disk).1 = .ok (setup, files)) (seconds : String) :
    ∃ (before after : List Message) (reports : List FileReport), reports.length = files.length ∧
      (∀ told ∈ before, setup.NoLabel told) ∧ (∀ told ∈ after, setup.NoLabel told) ∧
      request.transcript true seconds disk =
        before.map .line ++ .line ⟨.info, setup.label⟩ :: .bar (.start files.length 0) ::
          ((reports.zipIdx 1).flatMap request.moveNotices ++ .bar .stop :: after.map .line) := by
  have hlog := request.preparing_prepare disk
  refine ⟨_, _, _, setup.length_reports_stripFiles disk files, ?_, ?_, transcript_bar h seconds⟩
  · exact List.forall_mem_append.2 ⟨fun told htold => noLabel_of_ne (hlog told htold).ne_info,
      request.noLabel_announce setup files⟩
  · refine List.forall_mem_append.2 ⟨fun told htold => noLabel_of_ne ?_, noLabel_conclude setup _ _⟩
    simp [Setup.severity_of_mem_stripFiles htold]

/-- Those who watch are told first that no file is done, and then of each file in turn what became of it
in the tree that the ones before it have left, and that it is done. A bar that is drawn from this
starts once, behind the only line that describes it, moves on with each file and stops once behind
the last one, also if there is none. At the level of infos no line is shown in between. -/
theorem run_protocol (h : (request.prepare disk).1 = .ok (setup, files))
    (drawn : request.drawsBar (Level.choose request.verbose named).1 = true) :
    (∀ (setup : Setup) (disk : Disk) (files : List String), ∃ reports,
      (setup.stripFiles disk files).2.filter Event.isWatched = setup.watched reports ∧
        reports.length = files.length ∧
        ∀ i, reports[i]? = files[i]?.map fun path =>
          (setup.stripFile (setup.stripFiles disk (files.take i)).1 path).2.1) ∧
      (request.run named seconds disk).output.filterMap Output.call? =
        .start files.length 0 :: (List.range' 1 files.length).map .update ++ [.stop] ∧
      (request.run named seconds disk).output.count (.stdout setup.label) = 1 ∧
      ∃ before between after, (request.run named seconds disk).output =
          before ++ .stdout setup.label :: .bar (.start files.length 0) ::
            (between ++ .bar .stop :: after) ∧
        ((Level.choose request.verbose named).1 = .info →
          between = (List.range' 1 files.length).map fun done => .bar (.update done)) := by
  obtain ⟨before, after, reports, hlength, hbefore, hafter, htranscript⟩ :=
    exists_transcript_bar h seconds
  have houtput := request.output_run named seconds disk
  rw [drawn, htranscript] at houtput
  have hcalls := calls_choose request.verbose named
  have hwarnings := Level.stderr_of_mem_choose request.verbose named
  generalize Level.choose request.verbose named = chosen at *
  obtain ⟨level, warnings⟩ := chosen
  dsimp only at *
  have hlabel : level.print ⟨.info, setup.label⟩ = [.stdout setup.label] := by
    simp [Level.print, level_ne_silent drawn]
  have hsplit : (request.run named seconds disk).output =
      (warnings ++ (before.map Notice.line).flatMap level.display) ++ .stdout setup.label ::
        .bar (.start files.length 0) ::
          (((reports.zipIdx 1).flatMap request.moveNotices).flatMap level.display ++
            .bar .stop :: (after.map Notice.line).flatMap level.display) := by
    rw [houtput]
    simp [Level.display, hlabel]
  refine ⟨fun setup disk files => ⟨_, setup.watched_stripFiles disk files,
    setup.length_reports_stripFiles disk files, setup.getElem?_reports_stripFiles disk files⟩, ?_, ?_,
    _, _, _, hsplit, ?_⟩
  · rw [hsplit]
    simp only [List.filterMap_append, List.filterMap_cons, hcalls, calls_flatMap_display,
      calls_lines, calls_moves, hlength, Output.call?, List.nil_append, List.cons_append]
  · have hnone : .stdout setup.label ∉ warnings := by
      intro hmem
      obtain ⟨line, hline⟩ := hwarnings _ hmem
      cases hline
    rw [hsplit]
    simp [List.count_eq_zero.2, hnone, Setup.label_not_mem_lines hbefore,
      Setup.label_not_mem_lines hafter, request.label_not_mem_moves level reports]
  · rintro rfl
    rw [request.display_moves_info, hlength]

theorem run_protocol_obstacles :
    ((({ paths := ["b.rs", "a.rs"], progress := true } : Request).run none "0.01"
        Setup.obstacles).output.filterMap Output.call? =
          [.start 2 0, .update 1, .update 2, .stop]) ∧
      ((({ paths := ["d"], progress := true } : Request).run none "0.01"
        Setup.obstacles).output.filterMap Output.call? = [.start 0 0, .stop]) ∧
      (({ paths := ["b.rs", "a.rs"], progress := true } : Request).run none "0.01"
        Setup.obstacles).output.count (.stdout "Stripping comments") = 1 := by
  have htwo : (({ paths := ["b.rs", "a.rs"], progress := true } : Request).prepare
      Setup.obstacles).1 = .ok ({}, ["b.rs", "a.rs"]) := by decide +kernel
  have hnone : (({ paths := ["d"], progress := true } : Request).prepare
      Setup.obstacles).1 = .ok ({}, []) := by decide +kernel
  obtain ⟨-, hcalls, hcount, -⟩ := @run_protocol _ _ _ none "0.01" _ htwo rfl
  obtain ⟨-, hcalls', -⟩ := @run_protocol _ _ _ none "0.01" _ hnone rfl
  exact ⟨hcalls, hcalls', hcount⟩

end Request

end LineComment
