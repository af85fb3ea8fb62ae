import LineComment.Proofs.FatalErrors
import LineComment.Proofs.Isolation

/-! All that a session has to show, before the level holds back some of it. The level decides whether
a bar is drawn, and then which of the lines are printed. -/

namespace LineComment

inductive Notice
  | line (told : Message)
  | bar (call : BarCall)

def Level.display (level : Level) : Notice → List Output
  | .line told => level.print told
  | .bar call => [.bar call]

namespace Request

def plainNotices (request : Request) : Event → List Notice
  | .message told => [.line told]
  | .file report => (request.fileMessage false report).map .line
  | .progress _ => []

def moveNotices (request : Request) : FileReport × Nat → List Notice
  | (report, done) => (request.fileMessage true report).map .line ++ [.bar (.update done)]

/-- The files under a bar. It starts behind a line that describes it, moves on after each file, and
stops; then the messages follow that have waited. -/
def barNotices (request : Request) (label : String) (reports : List FileReport)
    (waiting : List Message) : List Notice :=
  .line ⟨.info, label⟩ :: .bar (.start reports.length 0) ::
    ((reports.zipIdx 1).flatMap request.moveNotices ++ .bar .stop :: waiting.map .line)

def fileNotices (request : Request) (bar : Bool) (setup : Setup) (events : List Event) :
    List Notice :=
  if bar then
    request.barNotices setup.label (events.filterMap Event.report?)
      (events.filterMap Event.message?)
  else events.flatMap request.plainNotices

def transcript (request : Request) (bar : Bool) (seconds : String) (disk : Disk) : List Notice :=
  let (prepared, log) := request.prepare disk
  log.map .line ++ match prepared with
    | .error error => [.line ⟨.error, "❌ Error: " ++ error.message⟩]
    | .ok (setup, files) =>
      let events := (setup.stripFiles disk files).2
      (request.announce setup files).map .line ++ request.fileNotices bar setup events
        ++ (conclude (setup.totals events) seconds).map .line

end Request

section Display

variable {level : Level} {request : Request} {setup : Setup} {disk : Disk} {told : Message}
  {files : List String} {events : List Event} {log : List Message} {report : FileReport}
  {total done : Nat} {path : String}

theorem flatMap_display_line (level : Level) (log : List Message) :
    (log.map Notice.line).flatMap level.display = log.flatMap level.print := by
  rw [List.flatMap_map]
  rfl

theorem Setup.severity_of_mem_stripFile (h : told ∈ (setup.stripFile disk path).2.2) :
    told.severity = .error := by
  obtain ⟨action, reason, -, hfile⟩ | ⟨-, -, hlog⟩ := setup.stripFile_obstructed disk path
  · rw [hfile] at h
    rw [List.mem_singleton.1 h]
  · rw [hlog] at h
    cases h

theorem Setup.length_reports_stripFrom (setup : Setup) (disk : Disk) (total done : Nat)
    (files : List String) :
    ((setup.stripFrom disk total done files).2.filterMap Event.report?).length = files.length := by
  induction files generalizing disk done with
  | nil => rfl
  | cons path files ih => rw [reports_stripFrom_cons, List.length_cons, ih, List.length_cons]

theorem Setup.length_reports_stripFiles (setup : Setup) (disk : Disk) (files : List String) :
    ((setup.stripFiles disk files).2.filterMap Event.report?).length = files.length :=
  setup.length_reports_stripFrom disk files.length 0 files

namespace Request

theorem flatMap_plainNotices (request : Request) (level : Level) (events : List Event) :
    (events.flatMap request.plainNotices).flatMap level.display =
      events.flatMap (request.showPlain level) := by
  rw [List.flatMap_assoc]
  congr 1
  funext event
  cases event with
  | message told => simp [plainNotices, showPlain, Level.display]
  | file report => exact flatMap_display_line level _
  | progress reached => rfl

theorem showAllBar_cons (request : Request) (level : Level) (bar : Bar) (event : Event)
    (events : List Event) :
    request.showAllBar level bar (event :: events) =
      (request.showBar level bar event).2 ++
        request.showAllBar level (request.showBar level bar event).1 events := rfl

theorem showAllBar_errors (request : Request) (level : Level) (bar : Bar) (events : List Event)
    (h : ∀ told ∈ log, told.severity = .error) :
    request.showAllBar level bar (log.map .message ++ events) =
      request.showAllBar level { bar with deferred := bar.deferred ++ log } events := by
  induction log generalizing bar with
  | nil => simp
  | cons told log ih =>
    obtain ⟨htold, hlog⟩ := List.forall_mem_cons.1 h
    simp [showAllBar_cons, showBar, htold, ih _ hlog]

theorem showAllBar_stripFrom (request : Request) (level : Level) (deferred : List Message)
    (setup : Setup) (disk : Disk) (done : Nat) (files : List String) :
    request.showAllBar level ⟨true, deferred⟩
        (setup.stripFrom disk (done + files.length) done files).2 =
      ((((setup.stripFrom disk (done + files.length) done files).2.filterMap
          Event.report?).zipIdx (done + 1)).flatMap request.moveNotices ++
        ((if files = [] then [] else [Notice.bar .stop]) ++
          (deferred ++ (setup.stripFrom disk (done + files.length) done files).2.filterMap
            Event.message?).map Notice.line)).flatMap level.display := by
  induction files generalizing disk done deferred with
  | nil => simp [Setup.stripFrom, showAllBar, flatMap_display_line]
  | cons path files ih =>
    have htotal : done + (path :: files).length = done + 1 + files.length := by
      rw [List.length_cons]
      omega
    have herrors : ∀ told ∈ (setup.stripFile disk path).2.2, told.severity = .error :=
      fun told => Setup.severity_of_mem_stripFile
    -- The errors of this file wait, its report is shown, the bar moves on. The last file stops it.
    rw [htotal, Setup.reports_stripFrom_cons, Setup.messages_stripFrom_cons, Setup.stripFrom_cons,
      showAllBar_errors request level _ _ herrors, showAllBar_cons, showAllBar_cons]
    simp only [showBar]
    rw [ih]
    cases files <;> simp [moveNotices, flatMap_display_line, Level.display, Setup.stripFrom]

theorem showAll_stripFiles (request : Request) (level : Level) (setup : Setup) (disk : Disk)
    (files : List String) :
    request.showAll level (setup.stripFiles disk files).2 =
      (request.fileNotices (request.drawsBar level) setup
        (setup.stripFiles disk files).2).flatMap level.display := by
  rw [showAll, fileNotices]
  split
  next =>
    have hfiles := request.showAllBar_stripFrom level [] setup disk 0 files
    have hreports : (setup.stripFiles disk files).2.filterMap Event.report? =
        (setup.stripFrom disk files.length 0 files).2.filterMap Event.report? := rfl
    have hmessages : (setup.stripFiles disk files).2.filterMap Event.message? =
        (setup.stripFrom disk files.length 0 files).2.filterMap Event.message? := rfl
    rw [Nat.zero_add] at hfiles
    rw [hreports, hmessages, barNotices, Setup.length_reports_stripFrom, Setup.stripFiles,
      showAllBar_cons]
    simp only [showBar]
    rw [hfiles]
    cases files <;> simp [Level.display, Setup.stripFrom, Event.report?]
  next => exact (request.flatMap_plainNotices level _).symm

theorem transcript_of_ok (h : (request.prepare disk).1 = .ok (setup, files)) (bar : Bool)
    (seconds : String) :
    request.transcript bar seconds disk =
      (request.prepare disk).2.map .line ++ ((request.announce setup files).map .line
        ++ request.fileNotices bar setup (setup.stripFiles disk files).2
        ++ (conclude (setup.totals (setup.stripFiles disk files).2) seconds).map .line) := by
  rw [transcript]
  generalize request.prepare disk = prepared at h ⊢
  obtain ⟨result, log⟩ := prepared
  obtain rfl := h
  rfl

theorem transcript_bar (h : (request.prepare disk).1 = .ok (setup, files)) (seconds : String) :
    request.transcript true seconds disk =
      ((request.prepare disk).2 ++ request.announce setup files).map .line ++
        .line ⟨.info, setup.label⟩ :: .bar (.start files.length 0) ::
          ((((setup.stripFiles disk files).2.filterMap Event.report?).zipIdx 1).flatMap
              request.moveNotices ++ .bar .stop ::
            ((setup.stripFiles disk files).2.filterMap Event.message? ++
              conclude (setup.totals (setup.stripFiles disk files).2) seconds).map .line) := by
  rw [transcript_of_ok h, fileNotices, if_pos rfl, barNotices, Setup.length_reports_stripFiles]
  simp

theorem output_runAt (request : Request) (level : Level) (seconds : String) (disk : Disk) :
    (request.runAt level seconds disk).output =
      (request.transcript (request.drawsBar level) seconds disk).flatMap level.display := by
  rw [runAt, transcript]
  generalize request.prepare disk = prepared
  obtain ⟨result, log⟩ := prepared
  cases result with
  | error error => simp [flatMap_display_line, Level.display]
  | ok ready => simp [flatMap_display_line, showAll_stripFiles]

end Request

end Display

end LineComment
