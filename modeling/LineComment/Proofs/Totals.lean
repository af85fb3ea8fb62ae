import LineComment.Proofs.Progress
import LineComment.Proofs.Rounding

namespace LineComment

namespace FileReport

def isUnchanged (report : FileReport) : Bool :=
  match report.outcome with
  | .unchanged => true
  | .modified _ _ | .failed _ => false

def isFailed (report : FileReport) : Bool :=
  match report.outcome with
  | .failed _ => true
  | .unchanged | .modified _ _ => false

def Counts (report : FileReport) : Prop :=
  0 ≤ report.result.removedComments ∧ 0 ≤ report.result.removedLines

theorem length_eq_countP (reports : List FileReport) :
    reports.length =
      reports.countP isModified + reports.countP isFailed + reports.countP isUnchanged := by
  induction reports with
  | nil => rfl
  | cons report reports ih =>
    obtain ⟨path, outcome⟩ := report
    rw [List.length_cons, ih]
    cases outcome <;> simp [List.countP_cons, isModified, isFailed, isUnchanged] <;> omega

def comments (reports : List FileReport) : List Int :=
  (reports.filter isModified).map fun report => report.result.removedComments

def lines (reports : List FileReport) : List Int :=
  (reports.filter isModified).map fun report => report.result.removedLines

theorem nonneg_of_mem_modified {reports : List FileReport} {get : FileReport → Int}
    (h : ∀ report ∈ reports, 0 ≤ get report) :
    ∀ count ∈ (reports.filter isModified).map get, 0 ≤ count := by
  intro count hcount
  obtain ⟨report, hreport, rfl⟩ := List.mem_map.1 hcount
  exact h report (List.mem_of_mem_filter hreport)

end FileReport

namespace Totals

open FileReport

variable {reports reports' : List FileReport} {dryRun : Bool}

theorem foldl_add_eq (totals : Totals) (reports : List FileReport) :
    reports.foldl add totals =
      { totals with
        scanned := totals.scanned + reports.length
        modified := totals.modified + reports.countP isModified
        failed := totals.failed + reports.countP isFailed
        removedComments := roundedSum totals.removedComments (comments reports)
        removedLines := roundedSum totals.removedLines (lines reports) } := by
  induction reports generalizing totals with
  | nil => rfl
  | cons report reports ih =>
    obtain ⟨path, outcome⟩ := report
    rw [List.foldl_cons, ih]
    cases outcome <;>
      simp [add, comments, lines, isModified, isFailed, result, roundedSum, List.countP_cons,
        List.filter_cons] <;> omega

theorem ofReports_eq (dryRun : Bool) (reports : List FileReport) :
    ofReports dryRun reports =
      { dryRun
        scanned := reports.length
        modified := reports.countP isModified
        failed := reports.countP isFailed
        removedComments := roundedSum 0 (comments reports)
        removedLines := roundedSum 0 (lines reports) } := by
  rw [ofReports, foldl_add_eq]
  simp

/-- Totals are those of the reports. The sums are exact below `2 ^ 53`. -/
structure SumUp (totals : Totals) (reports : List FileReport) : Prop where
  scanned : totals.scanned = reports.length
  parts : totals.scanned = totals.modified + totals.failed + reports.countP isUnchanged
  modified : totals.modified = reports.countP isModified
  failed : totals.failed = reports.countP isFailed
  removedComments : totals.removedComments < 2 ^ 53 →
    totals.removedComments = (comments reports).sum
  removedLines : totals.removedLines < 2 ^ 53 → totals.removedLines = (lines reports).sum

section Counts

variable (counts : ∀ report ∈ reports, report.Counts)
include counts

theorem nonneg_comments : ∀ count ∈ FileReport.comments reports, 0 ≤ count :=
  nonneg_of_mem_modified fun report hreport => (counts report hreport).1

theorem nonneg_lines : ∀ count ∈ FileReport.lines reports, 0 ≤ count :=
  nonneg_of_mem_modified fun report hreport => (counts report hreport).2

theorem sumUp_ofReports (dryRun : Bool) : (ofReports dryRun reports).SumUp reports := by
  rw [ofReports_eq]
  constructor
  case scanned => rfl
  case parts => exact length_eq_countP reports
  case modified => rfl
  case failed => rfl
  case removedComments => exact roundedSum_of_lt (nonneg_comments counts)
  case removedLines => exact roundedSum_of_lt (nonneg_lines counts)

theorem ofReports_perm (hperm : reports.Perm reports')
    (hcomments : (ofReports dryRun reports).removedComments < 2 ^ 53)
    (hlines : (ofReports dryRun reports).removedLines < 2 ^ 53) :
    ofReports dryRun reports' = ofReports dryRun reports := by
  have hmodified := hperm.filter isModified
  have hcomments' : (FileReport.comments reports).Perm (FileReport.comments reports') :=
    hmodified.map _
  have hlines' : (FileReport.lines reports).Perm (FileReport.lines reports') := hmodified.map _
  rw [ofReports_eq] at hcomments hlines
  rw [ofReports_eq, ofReports_eq, hperm.length_eq, hperm.countP_eq, hperm.countP_eq,
    roundedSum_perm (nonneg_comments counts) hcomments hcomments',
    roundedSum_perm (nonneg_lines counts) hlines hlines']

end Counts

end Totals

namespace Setup

open Policy

variable {setup : Setup} {disk : Disk} {path : String} {comments lines : Int} {files : List String}

theorem exists_text_of_modified
    (h : (setup.stripFile disk path).2.1.outcome = .modified comments lines) :
    ∃ text, readText disk path = .ok text ∧
      comments = (setup.config.strip text.toList).removedComments ∧
      lines = (setup.config.strip text.toList).removedLines := by
  have hhandled := setup.handled disk path
  generalize setup.stripFile disk path = result at hhandled h
  cases hhandled with
  | unreadable => cases h
  | plain => cases h
  | refused => cases h
  | @foreseen _ text hlocate hcommented | @written _ text hlocate hcommented =>
    obtain ⟨hcomments, hlines⟩ := Outcome.modified.inj h
    exact ⟨text, hcommented.readText_eq hlocate, hcomments.symm, hlines.symm⟩

theorem counts_stripFile (setup : Setup) (disk : Disk) (path : String) :
    (setup.stripFile disk path).2.1.Counts := by
  rw [FileReport.Counts, FileReport.result]
  cases houtcome : (setup.stripFile disk path).2.1.outcome with
  | modified comments lines =>
    obtain ⟨text, -, rfl, rfl⟩ := exists_text_of_modified houtcome
    exact ⟨Int.natCast_nonneg _, Int.natCast_nonneg _⟩
  | unchanged | failed => exact ⟨Int.le_refl 0, Int.le_refl 0⟩

theorem counts_of_mem_stripFiles :
    ∀ report ∈ (setup.stripFiles disk files).2.filterMap Event.report?, report.Counts := by
  intro report hreport
  obtain ⟨i, hi⟩ := List.mem_iff_getElem?.1 hreport
  rw [getElem?_reports_stripFiles] at hi
  obtain ⟨path, -, rfl⟩ := Option.map_eq_some_iff.1 hi
  exact setup.counts_stripFile _ path

end Setup

def Wide.beginsAny (starts : List String) (line : Wide) : Bool :=
  starts.any fun start => (ofString start).units.isPrefixOf line.units

def reportOpenings : List String :=
  ["Modified ", "[DRY RUN] Would modify ", "Failed ", "Unchanged "]

def errorOpenings : List String :=
  ["Error reading ", "Error writing "]

section Lines

variable {starts : List String} {start : String} {text : Wide} {told : Message} {level : Level}
  {request : Request} {setup : Setup} {disk : Disk} {log : List Message} {files : List String}
  {named : Option String} {seconds : String}

theorem beginsAny_of_mem (start : String) (h : (Wide.ofString start).units <+: text.units)
    (hmem : start ∈ starts) : text.beginsAny starts = true :=
  List.any_eq_true.2 ⟨start, hmem, List.isPrefixOf_iff_prefix.2 h⟩

theorem beginsAny_eq_false (start : String) (h : (Wide.ofString start).units <+: text.units)
    (apart : ∀ other ∈ starts, Apart start other) : text.beginsAny starts = false := by
  rw [Wide.beginsAny, List.any_eq_false]
  exact fun other hother => mt List.isPrefixOf_iff_prefix.1 ((apart other hother).not_begins h)

theorem FileReport.beginsAny_line (report : FileReport) (dryRun : Bool) :
    (Wide.ofString (report.line dryRun)).beginsAny reportOpenings = true := by
  obtain ⟨path, outcome⟩ := report
  cases outcome with
  | modified comments lines =>
    cases dryRun with
    | false => exact beginsAny_of_mem "Modified " (by simp [line]) (by decide)
    | true =>
      exact beginsAny_of_mem (dryRunMark ++ "Would modify" ++ " ") (by simp [line])
        (by decide +kernel)
  | unchanged => exact beginsAny_of_mem "Unchanged " (by simp [line]) (by decide)
  | failed reason => exact beginsAny_of_mem "Failed " (by simp [line]) (by decide)

def Output.reportLine? (shown : Output) : Option Wide :=
  shown.stdout?.filter (Wide.beginsAny reportOpenings)

def Message.reportLine? (told : Message) : Option Wide :=
  if told.severity = .info ∧ told.text.beginsAny reportOpenings then some told.text else none

def Notice.reportLine? : Notice → Option Wide
  | .line told => told.reportLine?
  | .bar _ => none

theorem reportLine_display (h : level ≠ .silent) (notice : Notice) :
    (level.display notice).filterMap Output.reportLine? = notice.reportLine?.toList := by
  cases notice with
  | bar call => rfl
  | line told =>
    obtain ⟨severity, text⟩ := told
    cases severity with
    | info =>
      cases htext : text.beginsAny reportOpenings <;>
        simp [Level.display, Level.print, h, Output.reportLine?, Output.stdout?,
          Notice.reportLine?, Message.reportLine?, Option.filter_some, htext]
    | debug =>
      have hdetail : ("[debug] " ++ text : Wide).beginsAny reportOpenings = false :=
        beginsAny_eq_false "[debug] " (by simp) (by decide +kernel)
      cases level <;>
        simp [Level.display, Level.print, Output.reportLine?, Output.stdout?,
          Notice.reportLine?, Message.reportLine?, hdetail]
    | warn | error => rfl

theorem reportLines_lines (log : List Message) :
    (log.map Notice.line).filterMap Notice.reportLine? = log.filterMap Message.reportLine? := by
  rw [List.filterMap_map]
  rfl

theorem reportLine_of_ne (h : told.severity ≠ .info) : told.reportLine? = none :=
  if_neg fun hline => h hline.1

theorem reportLine_of_begins (start : String) (h : (Wide.ofString start).units <+: told.text.units)
    (apart : ∀ other ∈ reportOpenings, Apart start other) : told.reportLine? = none := by
  rw [Message.reportLine?, beginsAny_eq_false start h apart]
  simp

namespace Request

theorem reportLines_announce (request : Request) (setup : Setup) (files : List String) :
    (request.announce setup files).filterMap Message.reportLine? = [] := by
  rw [List.filterMap_eq_nil_iff, announce]
  refine List.forall_mem_cons.2 ⟨?_, ?_⟩
  · exact reportLine_of_begins "🚀 Processing " (by simp) (by decide +kernel)
  · split
    next =>
      exact List.forall_mem_singleton.2
        (reportLine_of_begins _ (List.prefix_refl _) (by decide +kernel))
    next => simp

theorem reportLines_conclude (totals : Totals) (seconds : String) :
    (conclude totals seconds).filterMap Message.reportLine? = [] := by
  obtain ⟨rest, hrest⟩ := totals.exists_summary_eq
  rw [List.filterMap_eq_nil_iff]
  refine List.forall_mem_cons.2 ⟨by decide, List.forall_mem_cons.2 ⟨?_, ?_⟩⟩
  · rw [hrest]
    split
    next =>
      exact reportLine_of_begins (dryRunMark ++ "Summary:") (by simp) (by decide +kernel)
    next => exact reportLine_of_begins "Summary:" (by simp) (by decide +kernel)
  · exact List.forall_mem_singleton.2 (reportLine_of_ne (by simp))

theorem reportLines_fileMessage (request : Request) (report : FileReport) :
    (request.fileMessage false report).filterMap Message.reportLine? =
      if report.isModified then [Wide.ofString (report.line request.dryRun)] else [] := by
  have hline := report.beginsAny_line request.dryRun
  obtain ⟨path, outcome⟩ := report
  cases outcome with
  | modified comments lines =>
    simp [fileMessage, Message.reportLine?, hline, FileReport.isModified]
  | unchanged | failed => rfl

theorem reportLines_plainNotices (request : Request) (events : List Event)
    (h : ∀ told ∈ events.filterMap Event.message?, told.severity = .error) :
    (events.flatMap request.plainNotices).filterMap Notice.reportLine? =
      ((events.filterMap Event.report?).filter FileReport.isModified).map fun report =>
        Wide.ofString (report.line request.dryRun) := by
  induction events with
  | nil => rfl
  | cons event events ih =>
    rw [List.flatMap_cons, List.filterMap_append]
    cases event with
    | message told =>
      obtain ⟨htold, hevents⟩ := List.forall_mem_cons.1 h
      rw [ih hevents, List.filterMap_cons_none (f := Event.report?) rfl]
      have hnone : told.reportLine? = none := reportLine_of_ne (by simp [htold])
      simp [plainNotices, Notice.reportLine?, hnone]
    | file report =>
      rw [ih h, plainNotices, reportLines_lines, reportLines_fileMessage,
        List.filterMap_cons_some (f := Event.report?) rfl, List.filter_cons]
      split <;> simp
    | progress reached =>
      rw [ih h]
      rfl

theorem reportLines_transcript (h : (request.prepare disk).1 = .ok (setup, files))
    (seconds : String) :
    (request.transcript false seconds disk).filterMap Notice.reportLine? =
      (((setup.stripFiles disk files).2.filterMap Event.report?).filter FileReport.isModified).map
        fun report => Wide.ofString (report.line request.dryRun) := by
  have hpreparing : (request.prepare disk).2.filterMap Message.reportLine? = [] :=
    List.filterMap_eq_nil_iff.2 fun told htold =>
      reportLine_of_ne (request.preparing_prepare disk told htold).ne_info
  rw [transcript_of_ok h]
  simp only [List.filterMap_append, reportLines_lines, hpreparing, reportLines_announce,
    reportLines_conclude, fileNotices, Bool.false_eq_true, if_false, List.nil_append,
    List.append_nil]
  exact request.reportLines_plainNotices _ fun _ => Setup.severity_of_mem_stripFiles

end Request

theorem beginsAny_errorOpenings_of_begins (h : Output.Begins (.stderr text) start)
    (hstart : start ∈ openings) : text.beginsAny errorOpenings = false := by
  have apart : ∀ start ∈ openings, ∀ other ∈ errorOpenings, Apart start other := by decide +kernel
  exact beginsAny_eq_false start h (apart start hstart)

theorem Level.beginsAny_choose {verbose : Bool} {named : Option String}
    (h : text ∈ (choose verbose named).2.filterMap Output.stderr?) :
    text.beginsAny errorOpenings = false := by
  obtain ⟨shown, hshown, htext⟩ := List.mem_filterMap.1 h
  cases shown with
  | stdout line | bar call => cases htext
  | stderr line =>
    obtain rfl := Option.some.inj htext
    obtain ⟨start, hstart, hbegins⟩ := begins_choose hshown
    exact beginsAny_errorOpenings_of_begins hbegins hstart

theorem Message.stderr_mem_print (level : Level) (h : told.complaint? = some text) :
    .stderr text ∈ level.print told := by
  obtain ⟨severity, line⟩ := told
  cases severity with
  | info | debug => cases h
  | warn | error =>
    obtain rfl := Option.some.inj h
    exact List.mem_singleton.2 rfl

theorem Message.Preparing.beginsAny_complaint (h : told.Preparing)
    (htext : told.complaint? = some text) : text.beginsAny errorOpenings = false := by
  obtain ⟨start, hstart, hbegins⟩ := h.begins (Message.stderr_mem_print .info htext)
  exact beginsAny_errorOpenings_of_begins hbegins hstart

namespace Setup

theorem countP_stripFile (setup : Setup) (disk : Disk) (path : String) :
    (setup.stripFile disk path).2.2.countP (fun told => told.text.beginsAny errorOpenings) =
      if (setup.stripFile disk path).2.1.isFailed then 1 else 0 := by
  obtain ⟨action, reason, hobstructed, hfile⟩ | ⟨-, hfailed, hlog⟩ :=
    setup.stripFile_obstructed disk path
  · have haction : "Error " ++ action ++ " " ∈ errorOpenings := by
      cases hobstructed <;> decide +kernel
    have hline : ("Error " ++ action ++ " " ++ path ++ ": " ++ reason : Wide).beginsAny
        errorOpenings = true :=
      beginsAny_of_mem ("Error " ++ action ++ " ") (by simp) haction
    rw [hfile]
    simp [hline, FileReport.isFailed]
  · have hreport : (setup.stripFile disk path).2.1.isFailed = false := by
      generalize (setup.stripFile disk path).2.1 = report at hfailed
      obtain ⟨path, outcome⟩ := report
      cases outcome with
      | unchanged | modified => rfl
      | failed reason => exact absurd ⟨reason, rfl⟩ hfailed
    rw [hlog, hreport]
    rfl

theorem countP_stripFrom (setup : Setup) (disk : Disk) (total done : Nat) (files : List String) :
    ((setup.stripFrom disk total done files).2.filterMap Event.message?).countP
        (fun told => told.text.beginsAny errorOpenings) =
      ((setup.stripFrom disk total done files).2.filterMap Event.report?).countP
        FileReport.isFailed := by
  induction files generalizing disk done with
  | nil => rfl
  | cons path files ih =>
    rw [messages_stripFrom_cons, reports_stripFrom_cons, List.countP_append, countP_stripFile, ih,
      List.countP_cons, Nat.add_comm]

end Setup

namespace Request

theorem countP_complaints (h : (request.prepare disk).1 = .ok (setup, files)) :
    (request.complaints disk).countP (Wide.beginsAny errorOpenings) =
      ((setup.stripFiles disk files).2.filterMap Event.report?).countP FileReport.isFailed := by
  have hlog := request.preparing_prepare disk
  rw [complaints]
  generalize request.prepare disk = prepared at h hlog
  obtain ⟨result, log⟩ := prepared
  obtain rfl := h
  have hpreparing : (log.filterMap Message.complaint?).countP (Wide.beginsAny errorOpenings) = 0 := by
    rw [List.countP_eq_zero]
    intro text htext
    obtain ⟨told, htold, htext⟩ := List.mem_filterMap.1 htext
    simp [(hlog told htold).beginsAny_complaint htext]
  rw [List.countP_append, hpreparing, Nat.zero_add, List.countP_map]
  exact setup.countP_stripFrom disk files.length 0 files

theorem countP_stderr_run (h : (request.prepare disk).1 = .ok (setup, files)) (named : Option String)
    (seconds : String) :
    ((request.run named seconds disk).output.filterMap Output.stderr?).countP
        (Wide.beginsAny errorOpenings) =
      ((setup.stripFiles disk files).2.filterMap Event.report?).countP FileReport.isFailed := by
  have hwarnings : ((Level.choose request.verbose named).2.filterMap Output.stderr?).countP
      (Wide.beginsAny errorOpenings) = 0 := by
    rw [List.countP_eq_zero]
    intro text htext
    simp [Level.beginsAny_choose htext]
  rw [stderr_run, List.countP_append, hwarnings, countP_complaints h, Nat.zero_add]

theorem reportLines_run (h : (request.prepare disk).1 = .ok (setup, files)) (named : Option String)
    (seconds : String) (told : (Level.choose request.verbose named).1 ≠ .silent)
    (plain : request.drawsBar (Level.choose request.verbose named).1 = false) :
    ((request.run named seconds disk).output.filterMap Output.stdout?).filter
        (Wide.beginsAny reportOpenings) =
      (((setup.stripFiles disk files).2.filterMap Event.report?).filter FileReport.isModified).map
        fun report => Wide.ofString (report.line request.dryRun) := by
  have hwarnings : (Level.choose request.verbose named).2.filterMap Output.reportLine? = [] := by
    rw [List.filterMap_eq_nil_iff]
    intro shown hshown
    obtain ⟨line, rfl⟩ := Level.stderr_of_mem_choose _ _ shown hshown
    rfl
  have hpick (output : List Output) :
      (output.filterMap Output.stdout?).filter (Wide.beginsAny reportOpenings) =
        output.filterMap Output.reportLine? := List.filter_filterMap
  rw [hpick, output_run, plain, List.filterMap_append, hwarnings, List.nil_append,
    filterMap_flatMap_display (reportLine_display told), reportLines_transcript h]

/-- A session that gets through adds up. Its totals count the files that were found, by what became of
them, and sum up what was removed from the text that each modified file was read with. The lines on
standard output that are about files tell the modified ones in turn, and there are as many errors
about files as files that failed. The order of the reports does not matter for the totals. -/
theorem run_adds_up (h : (request.run named seconds disk).exitCode = 0) :
    ∃ setup files, (request.prepare disk).1 = .ok (setup, files) ∧
      let events := (setup.stripFiles disk files).2
      let reports := events.filterMap Event.report?
      let totals := setup.totals events
      let report := request.run named seconds disk
      let level := (Level.choose request.verbose named).1
      totals.scanned = files.length ∧ totals.SumUp reports ∧
        (∀ i, reports[i]? = files[i]?.map fun path =>
          (setup.stripFile (setup.stripFiles disk (files.take i)).1 path).2.1) ∧
        (∀ i path (comments lines : Int), reports[i]? = some ⟨path, .modified comments lines⟩ →
          ∃ text, Setup.readText (setup.stripFiles disk (files.take i)).1 path = .ok text ∧
            comments = (setup.config.strip text.toList).removedComments ∧
            lines = (setup.config.strip text.toList).removedLines) ∧
        (conclude totals seconds).flatMap level.print <:+ report.output ∧
        (level ≠ .silent → request.drawsBar level = false →
          (report.output.filterMap Output.stdout?).filter (Wide.beginsAny reportOpenings) =
            (reports.filter FileReport.isModified).map fun report =>
              Wide.ofString (report.line request.dryRun)) ∧
        (report.output.filterMap Output.stderr?).countP (Wide.beginsAny errorOpenings) =
          totals.failed ∧
        ∀ dryRun (reports reports' : List FileReport), reports.Perm reports' →
          (∀ report ∈ reports, report.Counts) →
          (Totals.ofReports dryRun reports).removedComments < 2 ^ 53 →
          (Totals.ofReports dryRun reports).removedLines < 2 ^ 53 →
          Totals.ofReports dryRun reports' = Totals.ofReports dryRun reports := by
  cases hprepare : (request.prepare disk).1 with
  | error error => exact absurd (exists_prepare_iff.1 ⟨error, hprepare⟩) (exitCode_run_iff.2.1 h)
  | ok ready =>
    obtain ⟨setup, files⟩ := ready
    have hsum : (setup.totals (setup.stripFiles disk files).2).SumUp
        ((setup.stripFiles disk files).2.filterMap Event.report?) :=
      Totals.sumUp_ofReports Setup.counts_of_mem_stripFiles _
    refine ⟨setup, files, rfl, ?_, hsum, setup.getElem?_reports_stripFiles disk files, ?_,
      conclude_suffix_run hprepare named seconds, reportLines_run hprepare named seconds, ?_,
      fun _ _ _ hperm hcounts => Totals.ofReports_perm hcounts hperm⟩
    · exact hsum.scanned.trans (setup.length_reports_stripFiles disk files)
    · intro i path comments lines hreport
      rw [Setup.getElem?_reports_stripFiles] at hreport
      obtain ⟨path', -, hfile⟩ := Option.map_eq_some_iff.1 hreport
      obtain rfl : path' = path :=
        (setup.path_stripFile _ path').symm.trans (congrArg FileReport.path hfile)
      exact Setup.exists_text_of_modified (congrArg FileReport.outcome hfile)
    · rw [countP_stderr_run hprepare named seconds, hsum.failed]

theorem run_adds_up_obstacles :
    (({ paths := ["b.rs", "a.rs"] } : Request).run none "0.01" Setup.obstacles).exitCode = 0 ∧
      ((({ paths := ["b.rs", "a.rs"] } : Request).run none "0.01"
          Setup.obstacles).output.filterMap Output.stdout?).filter (Wide.beginsAny reportOpenings) =
        ["Modified a.rs: removed 1 comment (-0 lines)"] ∧
      ((({ paths := ["b.rs", "a.rs"] } : Request).run none "0.01"
          Setup.obstacles).output.filterMap Output.stderr?).countP (Wide.beginsAny errorOpenings) =
        1 := by
  have hzero : (({ paths := ["b.rs", "a.rs"] } : Request).run none "0.01"
      Setup.obstacles).exitCode = 0 := by decide +kernel
  have hready : (({ paths := ["b.rs", "a.rs"] } : Request).prepare Setup.obstacles).1 =
      .ok ({}, ["b.rs", "a.rs"]) := by decide +kernel
  obtain ⟨setup, files, hprepare, -, -, -, -, -, hlines, herrors, -⟩ := run_adds_up hzero
  obtain ⟨rfl, rfl⟩ := Prod.mk.inj (Except.ok.inj (hready.symm.trans hprepare))
  refine ⟨hzero, (hlines (by decide) rfl).trans ?_, herrors.trans ?_⟩
  · decide +kernel
  · decide +kernel

end Request

end Lines

end LineComment
