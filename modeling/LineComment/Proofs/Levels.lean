import LineComment.Proofs.Streams

/-! What the level has a say in. It holds back lines of standard output, and the lines that the level
of details adds are told from all others by their mark. -/

namespace LineComment

def Wide.isDetail (line : Wide) : Bool :=
  (ofString Severity.debug.mark).units.isPrefixOf line.units

def Output.isDetail : Output → Bool
  | .stdout line => line.isDetail
  | .stderr _ | .bar _ => false

def Message.Clear (told : Message) : Prop :=
  told.severity = .info → told.text.isDetail = false

inductive Request.Tells (request : Request) : Message → Prop
  | preparing {told : Message} (h : told.Preparing) : request.Tells told
  | error (text : Wide) : request.Tells ⟨.error, text⟩
  | announcing {setup : Setup} {files : List String} {told : Message}
      (h : told ∈ request.announce setup files) : request.Tells told
  | labelling (setup : Setup) : request.Tells ⟨.info, setup.label⟩
  | file {bar : Bool} {report : FileReport} {told : Message}
      (h : told ∈ request.fileMessage bar report) : request.Tells told
  | concluding {totals : Totals} {seconds : String} {told : Message}
      (h : told ∈ conclude totals seconds) : request.Tells told

section Details

variable {request : Request} {disk : Disk} {told : Message} {notice : Notice} {start : String}
  {text : Wide} {setup : Setup} {files : List String} {report : FileReport} {bar : Bool}

@[simp] theorem isDetail_mark (text : Wide) : ("[debug] " ++ text : Wide).isDetail = true := by
  simp [Wide.isDetail, Severity.mark]

theorem isDetail_of_begins (h : (Wide.ofString start).units <+: text.units)
    (apart : Apart start Severity.debug.mark) : text.isDetail = false := by
  rw [Wide.isDetail, Bool.eq_false_iff]
  exact mt List.isPrefixOf_iff_prefix.1 (apart.not_begins h)

theorem Message.clear_of_begins (h : (Wide.ofString start).units <+: told.text.units)
    (apart : Apart start Severity.debug.mark) : told.Clear :=
  fun _ => isDetail_of_begins h apart

theorem Message.clear_of_ne (h : told.severity ≠ .info) : told.Clear :=
  fun hinfo => absurd hinfo h

theorem Message.Preparing.clear (h : told.Preparing) : told.Clear := by
  cases h <;> exact Message.clear_of_ne (by simp)

theorem Message.Clear.print (h : told.Clear) :
    Level.info.print told = (Level.debug.print told).filter (!·.isDetail) := by
  obtain ⟨severity, text⟩ := told
  cases severity with
  | info =>
    have htext : text.isDetail = false := h rfl
    simp [Level.print, Output.isDetail, htext]
  | debug => simp [Level.print, Output.isDetail]
  | warn | error => rfl

theorem flatMap_display_info {notices : List Notice}
    (h : ∀ told, .line told ∈ notices → told.Clear) :
    notices.flatMap Level.info.display =
      (notices.flatMap Level.debug.display).filter (!·.isDetail) := by
  rw [List.filter_flatMap]
  refine List.flatMap_congr fun notice hnotice => ?_
  cases notice with
  | line told => exact (h told hnotice).print
  | bar call => rfl

theorem Setup.clear_label (setup : Setup) : Message.Clear ⟨.info, setup.label⟩ := by
  rw [label]
  split
  next => exact Message.clear_of_begins (List.prefix_refl _) (by decide +kernel)
  next => exact Message.clear_of_begins (List.prefix_refl _) (by decide +kernel)

namespace Totals

theorem exists_summary_eq (totals : Totals) :
    ∃ rest, totals.summary = (if totals.dryRun then dryRunMark else "") ++ "Summary:" ++ rest := by
  rw [summary, summaryLines]
  simp only [List.cons_append, String.intercalate_cons_cons, String.append_assoc]
  exact ⟨_, rfl⟩

theorem clear_summary (totals : Totals) : Message.Clear ⟨.info, totals.summary⟩ := by
  obtain ⟨rest, hrest⟩ := totals.exists_summary_eq
  rw [hrest]
  split
  next => exact Message.clear_of_begins (by simp) (by decide +kernel : Apart dryRunMark _)
  next => exact Message.clear_of_begins (by simp) (by decide +kernel : Apart "Summary:" _)

end Totals

namespace Request

theorem clear_fileMessage (h : told ∈ request.fileMessage bar report) : told.Clear := by
  obtain ⟨path, outcome⟩ := report
  cases outcome with
  | modified comments lines =>
    obtain rfl := List.mem_singleton.1 h
    cases request.dryRun with
    | false =>
      exact Message.clear_of_begins (by simp [FileReport.line])
        (by decide +kernel : Apart "Modified " _)
    | true =>
      exact Message.clear_of_begins (by simp [FileReport.line])
        (by decide +kernel : Apart dryRunMark _)
  | unchanged =>
    obtain rfl := List.mem_singleton.1 h
    exact Message.clear_of_ne (by simp)
  | failed reason => cases h

theorem clear_announce (request : Request) (setup : Setup) (files : List String) :
    ∀ told ∈ request.announce setup files, told.Clear := by
  rw [announce]
  refine List.forall_mem_cons.2 ⟨?_, ?_⟩
  · exact Message.clear_of_begins (by simp) (by decide +kernel : Apart "🚀 Processing " _)
  · split
    next =>
      exact List.forall_mem_singleton.2 (Message.clear_of_begins (List.prefix_refl _)
        (by decide +kernel))
    next => simp

theorem clear_conclude (totals : Totals) (seconds : String) :
    ∀ told ∈ conclude totals seconds, told.Clear := by
  refine List.forall_mem_cons.2 ⟨fun _ => by decide, List.forall_mem_cons.2 ⟨totals.clear_summary, ?_⟩⟩
  exact List.forall_mem_singleton.2 (Message.clear_of_ne (by simp))

theorem Tells.clear (h : request.Tells told) : told.Clear := by
  cases h with
  | preparing h => exact h.clear
  | error text => exact Message.clear_of_ne (by simp)
  | announcing h => exact request.clear_announce _ _ _ h
  | labelling setup => exact setup.clear_label
  | file h => exact clear_fileMessage h
  | concluding h => exact clear_conclude _ _ _ h

theorem line_mem_lines {log : List Message} : .line told ∈ log.map Notice.line ↔ told ∈ log := by
  simp

theorem tells_of_mem_stripFiles
    (h : told ∈ (setup.stripFiles disk files).2.filterMap Event.message?) : request.Tells told := by
  obtain ⟨severity, text⟩ := told
  obtain rfl : severity = .error := Setup.severity_of_mem_stripFiles h
  exact .error text

theorem tells_of_mem_fileNotices
    (h : .line told ∈ request.fileNotices bar setup (setup.stripFiles disk files).2) :
    request.Tells told := by
  cases bar with
  | false =>
    obtain ⟨event, hevent, hnotice⟩ := List.mem_flatMap.1 h
    cases event with
    | message told =>
      obtain ⟨rfl⟩ := List.mem_singleton.1 hnotice
      exact tells_of_mem_stripFiles (List.mem_filterMap.2 ⟨_, hevent, rfl⟩)
    | file report => exact .file (line_mem_lines.1 hnotice)
    | progress reached => cases hnotice
  | true =>
    rw [fileNotices, if_pos rfl, barNotices] at h
    simp only [List.mem_cons, List.mem_append, line_mem_lines, Notice.line.injEq, reduceCtorEq,
      false_or] at h
    obtain rfl | h | h := h
    · exact .labelling setup
    · obtain ⟨⟨report, done⟩, -, hmove⟩ := List.mem_flatMap.1 h
      obtain hfile | hmove := List.mem_append.1 hmove
      · exact .file (line_mem_lines.1 hfile)
      · cases List.mem_singleton.1 hmove
    · exact tells_of_mem_stripFiles h

theorem tells_of_mem_transcript {seconds : String}
    (h : .line told ∈ request.transcript bar seconds disk) : request.Tells told := by
  have hlog := request.preparing_prepare disk
  rw [transcript] at h
  generalize request.prepare disk = prepared at h hlog
  obtain ⟨result, log⟩ := prepared
  obtain h | h := List.mem_append.1 h
  · exact .preparing (hlog told (line_mem_lines.1 h))
  · cases result with
    | error error =>
      obtain ⟨rfl⟩ := List.mem_singleton.1 h
      exact .error _
    | ok ready =>
      obtain h | h := List.mem_append.1 h
      · obtain h | h := List.mem_append.1 h
        · exact .announcing (line_mem_lines.1 h)
        · exact tells_of_mem_fileNotices h
      · exact .concluding (line_mem_lines.1 h)

theorem transcript_info (request : Request) (bar : Bool) (seconds seconds' : String) (disk : Disk) :
    (request.transcript bar seconds disk).flatMap Level.info.display =
      (request.transcript bar seconds' disk).flatMap Level.info.display := by
  rw [transcript, transcript]
  generalize request.prepare disk = prepared
  obtain ⟨result, log⟩ := prepared
  cases result with
  | error error => rfl
  | ok ready =>
    simp only [List.flatMap_append, flatMap_display_line]
    rfl

theorem filter_transcript (request : Request) (bar : Bool) (seconds seconds' : String) (disk : Disk) :
    (request.transcript bar seconds disk).flatMap Level.info.display =
      ((request.transcript bar seconds' disk).flatMap Level.debug.display).filter (!·.isDetail) := by
  -- Both sides get the same elapsed time first, so that one transcript is left to compare.
  rw [request.transcript_info bar seconds seconds' disk]
  exact flatMap_display_info fun told h => (tells_of_mem_transcript h).clear

theorem output_run_of_choose {verbose : Bool} {named : Option String} {level : Level}
    (h : Level.choose verbose named = (level, [])) (request : Request) (seconds : String)
    (disk : Disk) :
    (({ request with verbose } : Request).run named seconds disk).output =
      (request.transcript (request.drawsBar level) seconds disk).flatMap level.display := by
  rw [output_run, transcript_display request request.progress verbose]
  dsimp only
  rw [h]
  rfl

theorem stdout_filter (output : List Output) :
    (output.filter (!·.isDetail)).filterMap Output.stdout? =
      (output.filterMap Output.stdout?).filter (!·.isDetail) := by
  rw [List.filterMap_filter, List.filter_filterMap]
  refine List.filterMap_congr fun shown _ => ?_
  cases shown with
  | stdout line => simp [Output.stdout?, Output.isDetail, Option.filter_some]
  | stderr line | bar call => rfl

theorem calls_filter (output : List Output) :
    (output.filter (!·.isDetail)).filterMap Output.call? = output.filterMap Output.call? := by
  rw [List.filterMap_filter]
  refine List.filterMap_congr fun shown _ => ?_
  cases shown with
  | stdout line => exact ite_self none
  | stderr line | bar call => rfl

theorem stderr_of_mem_silent {seconds : String} {shown : Output}
    (h : shown ∈ (request.transcript (request.drawsBar .silent) seconds disk).flatMap
      Level.silent.display) : ∃ line, shown = .stderr line := by
  have hbar : request.drawsBar .silent = false := Bool.and_false _
  rw [hbar] at h
  obtain ⟨notice, hnotice, hshown⟩ := List.mem_flatMap.1 h
  cases notice with
  | bar call =>
    cases List.filterMap_eq_nil_iff.1 (request.calls_transcript seconds disk) _ hnotice
  | line told =>
    obtain ⟨severity, text⟩ := told
    cases severity with
    | info | debug => cases hshown
    | warn | error => exact ⟨text, List.mem_singleton.1 hshown⟩

/-- The level takes lines from standard output and does nothing else. Details are the lines that bear
their mark. -/
theorem run_level {verbose verbose' : Bool} {named named' : Option String} {level level' : Level}
    (h : Level.choose verbose named = (level, [])) (h' : Level.choose verbose' named' = (level', []))
    (request : Request) (seconds seconds' : String) (disk : Disk) :
    let report := ({ request with verbose := verbose } : Request).run named seconds disk
    let other := ({ request with verbose := verbose' } : Request).run named' seconds' disk
    report.exitCode = other.exitCode ∧ report.disk = other.disk ∧
      report.output.filterMap Output.stderr? = other.output.filterMap Output.stderr? ∧
      (level = .info → level' = .debug →
        report.output = other.output.filter (!·.isDetail) ∧
          report.output.filterMap Output.stdout? =
            (other.output.filterMap Output.stdout?).filter (!·.isDetail) ∧
          report.output.filterMap Output.call? = other.output.filterMap Output.call?) ∧
      (level = .silent → ∀ shown ∈ report.output, ∃ line, shown = .stderr line) := by
  intro report other
  obtain ⟨hexit, hdisk⟩ := request.run_alike request.progress request.progress verbose verbose'
    named named' seconds seconds' disk
  have hreport := output_run_of_choose h request seconds disk
  have hother := output_run_of_choose h' request seconds' disk
  refine ⟨hexit, hdisk, ?_, ?_, ?_⟩
  · rw [hreport, hother, stderr_flatMap_display, stderr_flatMap_display, complaints_transcript,
      complaints_transcript]
  · rintro rfl rfl
    have hfilter : report.output = other.output.filter (!·.isDetail) := by
      rw [hreport, hother]
      exact request.filter_transcript _ seconds seconds' disk
    refine ⟨hfilter, ?_, ?_⟩
    · rw [hfilter, stdout_filter]
    · rw [hfilter, calls_filter]
  · rintro rfl
    rw [hreport]
    exact fun shown => stderr_of_mem_silent

theorem run_level_obstacles :
    Level.choose false none = (.info, []) ∧ Level.choose false (some "debug") = (.debug, []) ∧
      Level.choose true (some "silent") = (.silent, []) ∧
      (({ paths := ["b.rs", "a.rs"] } : Request).run none "0.01" Setup.obstacles).output =
        (({ paths := ["b.rs", "a.rs"] } : Request).run (some "debug") "0.02"
          Setup.obstacles).output.filter (!·.isDetail) ∧
      (({ paths := ["b.rs", "a.rs"] } : Request).run (some "debug") "0.02" Setup.obstacles).output.any
        Output.isDetail ∧
      ∀ shown ∈ (({ paths := ["b.rs", "a.rs"], verbose := true } : Request).run (some "silent") "0.03"
        Setup.obstacles).output, ∃ line, shown = .stderr line := by
  have hinfo : Level.choose false none = (.info, []) := rfl
  have hdebug : Level.choose false (some "debug") = (.debug, []) := by decide
  have hsilent : Level.choose true (some "silent") = (.silent, []) := by decide
  have hdetails := run_level hinfo hdebug { paths := ["b.rs", "a.rs"] } "0.01" "0.02" Setup.obstacles
  have hquiet := run_level hsilent hinfo { paths := ["b.rs", "a.rs"] } "0.03" "0.01" Setup.obstacles
  obtain ⟨-, -, -, hfilter, -⟩ := hdetails
  obtain ⟨-, -, -, -, hstderr⟩ := hquiet
  exact ⟨hinfo, hdebug, hsilent, (hfilter rfl rfl).1, by decide +kernel, hstderr rfl⟩

end Request

end Details

end LineComment
