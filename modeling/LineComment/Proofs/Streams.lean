import LineComment.Proofs.Transcript

namespace LineComment

namespace Output

def stdout? : Output → Option Wide
  | .stdout line => some line
  | .stderr _ | .bar _ => none

def stderr? : Output → Option Wide
  | .stderr line => some line
  | .stdout _ | .bar _ => none

def call? : Output → Option BarCall
  | .bar call => some call
  | .stdout _ | .stderr _ => none

end Output

def Message.complaint? (told : Message) : Option Wide :=
  match told.severity with
  | .warn | .error => some told.text
  | .info | .debug => none

def Notice.complaint? : Notice → Option Wide
  | .line told => told.complaint?
  | .bar _ => none

def Notice.call? : Notice → Option BarCall
  | .bar call => some call
  | .line _ => none

def Request.complaints (request : Request) (disk : Disk) : List Wide :=
  let (prepared, log) := request.prepare disk
  log.filterMap Message.complaint? ++ match prepared with
    | .error error => ["❌ Error: " ++ error.message]
    | .ok (setup, files) =>
      ((setup.stripFiles disk files).2.filterMap Event.message?).map Message.text

section Complaints

variable {level : Level} {request : Request} {setup : Setup} {disk : Disk} {told : Message}
  {files : List String} {log : List Message} {seconds : String}

theorem stderr_display (level : Level) (notice : Notice) :
    (level.display notice).filterMap Output.stderr? = notice.complaint?.toList := by
  cases notice with
  | bar call => rfl
  | line told =>
    obtain ⟨severity, text⟩ := told
    cases severity <;> cases level <;> rfl

theorem calls_display (level : Level) (notice : Notice) :
    (level.display notice).filterMap Output.call? = notice.call?.toList := by
  cases notice with
  | bar call => rfl
  | line told =>
    obtain ⟨severity, text⟩ := told
    cases severity <;> cases level <;> rfl

theorem filterMap_flatMap_display {α : Type} {pick : Output → Option α} {keep : Notice → Option α}
    (h : ∀ notice, (level.display notice).filterMap pick = (keep notice).toList)
    (notices : List Notice) :
    (notices.flatMap level.display).filterMap pick = notices.filterMap keep := by
  rw [List.filterMap_flatMap, List.filterMap_eq_flatMap_toList]
  simp only [h]

theorem stderr_flatMap_display (level : Level) (notices : List Notice) :
    (notices.flatMap level.display).filterMap Output.stderr? =
      notices.filterMap Notice.complaint? :=
  filterMap_flatMap_display (stderr_display level) notices

theorem calls_flatMap_display (level : Level) (notices : List Notice) :
    (notices.flatMap level.display).filterMap Output.call? = notices.filterMap Notice.call? :=
  filterMap_flatMap_display (calls_display level) notices

theorem complaints_lines (log : List Message) :
    (log.map Notice.line).filterMap Notice.complaint? = log.filterMap Message.complaint? := by
  rw [List.filterMap_map]
  rfl

theorem complaints_errors (h : ∀ told ∈ log, told.severity = .error) :
    log.filterMap Message.complaint? = log.map Message.text := by
  rw [← List.filterMap_eq_map]
  refine List.filterMap_congr fun told htold => ?_
  rw [Message.complaint?, h told htold]
  rfl

theorem Setup.severity_of_mem_stripFrom {total done : Nat}
    (h : told ∈ (setup.stripFrom disk total done files).2.filterMap Event.message?) :
    told.severity = .error := by
  induction files generalizing disk done with
  | nil => cases h
  | cons path files ih =>
    rw [messages_stripFrom_cons] at h
    obtain h | h := List.mem_append.1 h
    · exact severity_of_mem_stripFile h
    · exact ih h

theorem Setup.severity_of_mem_stripFiles
    (h : told ∈ (setup.stripFiles disk files).2.filterMap Event.message?) :
    told.severity = .error :=
  severity_of_mem_stripFrom h

namespace Request

theorem complaints_fileMessage (request : Request) (bar : Bool) (report : FileReport) :
    (request.fileMessage bar report).filterMap Message.complaint? = [] := by
  obtain ⟨path, outcome⟩ := report
  cases outcome <;> cases bar <;> rfl

theorem complaints_announce (request : Request) (setup : Setup) (files : List String) :
    (request.announce setup files).filterMap Message.complaint? = [] := by
  rw [announce]
  cases request.dryRun <;> rfl

theorem complaints_plainNotices (request : Request) (events : List Event) :
    (events.flatMap request.plainNotices).filterMap Notice.complaint? =
      (events.filterMap Event.message?).filterMap Message.complaint? := by
  rw [List.filterMap_flatMap, List.filterMap_filterMap, List.filterMap_eq_flatMap_toList]
  refine List.flatMap_congr fun event _ => ?_
  cases event with
  | message told =>
    cases h : told.complaint? <;> simp [plainNotices, Notice.complaint?, Event.message?, h]
  | file report => exact (complaints_lines _).trans (request.complaints_fileMessage false report)
  | progress reached => rfl

theorem complaints_moveNotices (request : Request) (moves : List (FileReport × Nat)) :
    (moves.flatMap request.moveNotices).filterMap Notice.complaint? = [] := by
  rw [List.filterMap_flatMap, List.flatMap_eq_nil_iff]
  rintro ⟨report, done⟩ -
  rw [moveNotices, List.filterMap_append, complaints_lines, complaints_fileMessage]
  rfl

theorem complaints_fileNotices (request : Request) (bar : Bool) (setup : Setup) (events : List Event) :
    (request.fileNotices bar setup events).filterMap Notice.complaint? =
      (events.filterMap Event.message?).filterMap Message.complaint? := by
  cases bar with
  | false => exact request.complaints_plainNotices events
  | true =>
    rw [fileNotices, if_pos rfl, barNotices, List.filterMap_cons_none rfl,
      List.filterMap_cons_none rfl, List.filterMap_append, complaints_moveNotices,
      List.filterMap_cons_none rfl, complaints_lines, List.nil_append]

theorem complaints_transcript (request : Request) (bar : Bool) (seconds : String) (disk : Disk) :
    (request.transcript bar seconds disk).filterMap Notice.complaint? =
      request.complaints disk := by
  rw [transcript, complaints]
  generalize request.prepare disk = prepared
  obtain ⟨result, log⟩ := prepared
  cases result with
  | error error =>
    rw [List.filterMap_append, complaints_lines]
    rfl
  | ok ready =>
    obtain ⟨setup, files⟩ := ready
    have herrors := complaints_errors fun told => @Setup.severity_of_mem_stripFiles setup disk told files
    dsimp only
    rw [List.filterMap_append, complaints_lines, List.filterMap_append, List.filterMap_append,
      complaints_lines, complaints_lines, complaints_announce, complaints_fileNotices, herrors,
      List.nil_append]
    exact congrArg _ (List.append_nil _)

theorem prepare_display (request : Request) (progress verbose : Bool) (disk : Disk) :
    ({ request with progress, verbose } : Request).prepare disk = request.prepare disk := by
  simp only [prepare, loadConfig, configPath, setup, layer]

theorem transcript_display (request : Request) (progress verbose bar : Bool) (seconds : String)
    (disk : Disk) :
    ({ request with progress, verbose } : Request).transcript bar seconds disk =
      request.transcript bar seconds disk := by
  rw [transcript, transcript, prepare_display]
  rfl

theorem output_run (request : Request) (named : Option String) (seconds : String) (disk : Disk) :
    (request.run named seconds disk).output =
      (Level.choose request.verbose named).2 ++
        (request.transcript (request.drawsBar (Level.choose request.verbose named).1) seconds
          disk).flatMap (Level.choose request.verbose named).1.display :=
  congrArg _ (request.output_runAt _ seconds disk)

theorem stderr_run (request : Request) (named : Option String) (seconds : String) (disk : Disk) :
    (request.run named seconds disk).output.filterMap Output.stderr? =
      (Level.choose request.verbose named).2.filterMap Output.stderr? ++
        request.complaints disk := by
  rw [output_run, List.filterMap_append, stderr_flatMap_display, complaints_transcript]

theorem run_alike (request : Request) (progress progress' verbose verbose' : Bool)
    (named named' : Option String) (seconds seconds' : String) (disk : Disk) :
    (({ request with progress, verbose } : Request).run named seconds disk).exitCode =
        (({ request with progress := progress', verbose := verbose' } : Request).run named' seconds'
          disk).exitCode ∧
      (({ request with progress, verbose } : Request).run named seconds disk).disk =
        (({ request with progress := progress', verbose := verbose' } : Request).run named' seconds'
          disk).disk := by
  simp only [exitCode_run, disk_run, prepare_display, and_self]

theorem complaints_display (request : Request) (progress verbose : Bool) (disk : Disk) :
    ({ request with progress, verbose } : Request).complaints disk = request.complaints disk := by
  rw [complaints, complaints, prepare_display]

end Request

end Complaints

section Calls

variable {level : Level} {request : Request} {disk : Disk} {log : List Message}

theorem calls_lines (log : List Message) :
    (log.map Notice.line).filterMap Notice.call? = [] := by
  rw [List.filterMap_map]
  exact List.filterMap_eq_nil_iff.2 fun told _ => rfl

theorem calls_choose (verbose : Bool) (named : Option String) :
    (Level.choose verbose named).2.filterMap Output.call? = [] := by
  cases named with
  | none => rfl
  | some name =>
    rw [Level.choose]
    split <;> rfl

namespace Request

theorem calls_plainNotices (request : Request) (events : List Event) :
    (events.flatMap request.plainNotices).filterMap Notice.call? = [] := by
  rw [List.filterMap_flatMap, List.flatMap_eq_nil_iff]
  intro event _
  cases event with
  | message told => rfl
  | file report => exact calls_lines _
  | progress reached => rfl

theorem calls_transcript (request : Request) (seconds : String) (disk : Disk) :
    (request.transcript false seconds disk).filterMap Notice.call? = [] := by
  rw [transcript]
  generalize request.prepare disk = prepared
  obtain ⟨result, log⟩ := prepared
  cases result with
  | error error =>
    rw [List.filterMap_append, calls_lines]
    rfl
  | ok ready =>
    dsimp only
    rw [fileNotices, if_neg Bool.false_ne_true]
    simp only [List.filterMap_append, calls_lines, calls_plainNotices, List.append_nil]

end Request

end Calls

def DrawnOnce (output : List Output) : Prop :=
  ∃ before total between after,
    output = before ++ .bar (.start total 0) :: (between ++ .bar .stop :: after) ∧
      before.filterMap Output.call? = [] ∧ after.filterMap Output.call? = [] ∧
      ∀ shown ∈ between, (∃ line, shown = .stdout line) ∨ ∃ done, shown = .bar (.update done)

section Drawing

variable {level : Level} {request : Request} {setup : Setup} {disk : Disk} {told : Message}
  {output : List Output}

theorem DrawnOnce.append_left {warnings : List Output} (h : DrawnOnce output)
    (hwarnings : warnings.filterMap Output.call? = []) : DrawnOnce (warnings ++ output) := by
  obtain ⟨before, total, between, after, rfl, hbefore, hafter, hbetween⟩ := h
  refine ⟨warnings ++ before, total, between, after, ?_, ?_, hafter, hbetween⟩
  · rw [List.append_assoc]
  · rw [List.filterMap_append, hwarnings, hbefore, List.append_nil]

theorem Message.stdout_of_mem_print (h : told.complaint? = none) {shown : Output}
    (hshown : shown ∈ level.print told) : ∃ line, shown = .stdout line := by
  obtain ⟨severity, text⟩ := told
  cases severity with
  | info | debug => cases level <;> simp_all [Level.print]
  | warn | error => cases h

namespace Request

theorem shown_of_mem_moveNotices {reached : FileReport × Nat} {shown : Output}
    (h : shown ∈ (request.moveNotices reached).flatMap level.display) :
    (∃ line, shown = .stdout line) ∨ ∃ done, shown = .bar (.update done) := by
  obtain ⟨report, done⟩ := reached
  rw [moveNotices, List.flatMap_append, flatMap_display_line] at h
  obtain h | h := List.mem_append.1 h
  · obtain ⟨told, htold, hshown⟩ := List.mem_flatMap.1 h
    have hquiet := List.filterMap_eq_nil_iff.1 (request.complaints_fileMessage true report) told htold
    exact .inl (Message.stdout_of_mem_print hquiet hshown)
  · exact .inr ⟨done, List.mem_singleton.1 h⟩

theorem calls_display_lines (level : Level) (log : List Message) :
    ((log.map Notice.line).flatMap level.display).filterMap Output.call? = [] := by
  rw [calls_flatMap_display, calls_lines]

theorem drawnOnce_transcript {ready : Setup × List String}
    (h : (request.prepare disk).1 = .ok ready) (level : Level) (seconds : String) :
    DrawnOnce ((request.transcript true seconds disk).flatMap level.display) := by
  obtain ⟨setup, files⟩ := ready
  rw [transcript_bar h, List.flatMap_append, List.flatMap_cons, List.flatMap_cons,
    List.flatMap_append, List.flatMap_cons, ← List.append_assoc]
  refine ⟨_, files.length, _, _, rfl, ?_, calls_display_lines .., fun shown hshown => ?_⟩
  · rw [List.filterMap_append, calls_display_lines, calls_display]
    rfl
  · rw [List.flatMap_assoc] at hshown
    obtain ⟨reached, -, hshown⟩ := List.mem_flatMap.1 hshown
    exact shown_of_mem_moveNotices hshown

theorem calls_run (named : Option String) (seconds : String)
    (h : request.drawsBar (Level.choose request.verbose named).1 = false ∨ request.Fails disk) :
    (request.run named seconds disk).output.filterMap Output.call? = [] := by
  obtain h | h := h
  · rw [output_run, h, List.filterMap_append, calls_choose, calls_flatMap_display, calls_transcript]
    rfl
  · refine List.filterMap_eq_nil_iff.2 fun shown hshown => ?_
    cases shown with
    | stdout line | stderr line => rfl
    | bar call => exact absurd hshown ((aborted_run h).noBar call)

theorem drawnOnce_run (named : Option String) (seconds : String)
    (h : request.drawsBar (Level.choose request.verbose named).1 = true)
    (hready : ¬request.Fails disk) :
    DrawnOnce (request.run named seconds disk).output := by
  rw [output_run, h]
  refine DrawnOnce.append_left ?_ (calls_choose _ _)
  cases hprepare : (request.prepare disk).1 with
  | error error => exact absurd (exists_prepare_iff.1 ⟨error, hprepare⟩) hready
  | ok ready => exact drawnOnce_transcript hprepare _ seconds

theorem conclude_suffix_run {files : List String} (h : (request.prepare disk).1 = .ok (setup, files))
    (named : Option String) (seconds : String) :
    (conclude (setup.totals (setup.stripFiles disk files).2) seconds).flatMap
        (Level.choose request.verbose named).1.print <:+
      (request.run named seconds disk).output := by
  rw [output_run, transcript_of_ok h, ← List.append_assoc, List.flatMap_append, ← List.append_assoc,
    flatMap_display_line]
  exact List.suffix_append _ _

theorem exists_totals_run (hready : ¬request.Fails disk) :
    ∃ totals, ∀ progress verbose named seconds,
      (conclude totals seconds).flatMap (Level.choose verbose named).1.print <:+
        (({ request with progress, verbose } : Request).run named seconds disk).output := by
  cases hprepare : (request.prepare disk).1 with
  | error error => exact absurd (exists_prepare_iff.1 ⟨error, hprepare⟩) hready
  | ok ready =>
    refine ⟨ready.1.totals (ready.1.stripFiles disk ready.2).2,
      fun progress verbose named seconds => ?_⟩
    have hready' : (({ request with progress, verbose } : Request).prepare disk).1 = .ok ready := by
      rw [prepare_display, hprepare]
    exact conclude_suffix_run hready' named seconds

/-- The bar changes no more than what is drawn: neither the end of a session, nor its tree, nor what it
complains of, nor the summary. What it complains of comes before the bar or after it. -/
theorem run_progress (request : Request) (named : Option String) (seconds seconds' : String)
    (disk : Disk) :
    let level := (Level.choose request.verbose named).1
    let warnings := (Level.choose request.verbose named).2
    let drawn := ({ request with progress := true } : Request).run named seconds disk
    let plain := ({ request with progress := false } : Request).run named seconds' disk
    drawn.exitCode = plain.exitCode ∧ drawn.disk = plain.disk ∧
      drawn.output.filterMap Output.stderr? =
        warnings.filterMap Output.stderr? ++ request.complaints disk ∧
      plain.output.filterMap Output.stderr? =
        warnings.filterMap Output.stderr? ++ request.complaints disk ∧
      (drawn.exitCode = 1 ∨ ∃ totals,
        (conclude totals seconds).flatMap level.print <:+ drawn.output ∧
          (conclude totals seconds').flatMap level.print <:+ plain.output) ∧
      plain.output.filterMap Output.call? = [] ∧
      if level = .silent ∨ drawn.exitCode = 1 then drawn.output.filterMap Output.call? = []
      else DrawnOnce drawn.output := by
  intro level warnings drawn plain
  obtain ⟨hexit, hdisk⟩ := request.run_alike true false request.verbose request.verbose named named
    seconds seconds' disk
  have hstderr (progress : Bool) (seconds : String) :
      (({ request with progress } : Request).run named seconds disk).output.filterMap
          Output.stderr? =
        warnings.filterMap Output.stderr? ++ request.complaints disk := by
    rw [stderr_run, complaints_display request progress request.verbose]
  refine ⟨hexit, hdisk, hstderr true seconds, hstderr false seconds', ?_, ?_, ?_⟩
  · by_cases hfails : request.Fails disk
    · exact .inl (exitCode_run_iff.1.2 hfails)
    · obtain ⟨totals, htotals⟩ := exists_totals_run hfails
      exact .inr ⟨totals, htotals true request.verbose named seconds,
        htotals false request.verbose named seconds'⟩
  · exact calls_run named seconds' (.inl rfl)
  · -- No bar is drawn at the silent level, and none is reached by a session that fails.
    split
    next hbar =>
      refine calls_run named seconds (hbar.imp (fun hlevel => ?_) exitCode_run_iff.1.1)
      exact decide_eq_false (not_not_intro hlevel)
    next hbar =>
      obtain ⟨hlevel, hzero⟩ := not_or.1 hbar
      exact drawnOnce_run named seconds (decide_eq_true hlevel) (mt exitCode_run_iff.1.2 hzero)

example :
    ((({ paths := ["b.rs", "a.rs"], progress := true } : Request).run none "0.01"
      Setup.obstacles).output.drop 2).take 5 =
      [.bar (.start 2 0), .bar (.update 1), .bar (.update 2), .bar .stop,
        .stderr "Error writing b.rs: EACCES"] := by
  decide +kernel

end Request

end Drawing

end LineComment
