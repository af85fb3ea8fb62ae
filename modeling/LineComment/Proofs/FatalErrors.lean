import LineComment.Proofs.Callbacks
import LineComment.Proofs.Settings
import LineComment.Session

namespace LineComment

/-- A path that ends a run. One that leads to no file or directory does so where it is not to be
skipped. -/
inductive Disk.Rejects (disk : Disk) (skipMissing : Bool) (path : String) : Prop
  | absent {fault : Fault} (h : disk.locate path = .error fault)
      (gone : fault = .missing ∨ fault = .notDirectory) (strict : skipMissing = false)
  | neither {location : Location} (h : disk.locate path = .ok location)
      (noFile : ∀ content, disk.get? location ≠ some (.file content))
      (noDirectory : disk.get? location ≠ some .directory) (strict : skipMissing = false)
  | inaccessible {fault : Fault} (h : disk.locate path = .error fault)
      (other : ¬(fault = .missing ∨ fault = .notDirectory))

def Request.Fails (request : Request) (disk : Disk) : Prop :=
  Config.Unusable disk request.configFile.isSome request.configPath ∨
    ∃ path ∈ request.paths, disk.Rejects request.skipMissing path

section Rejection

variable {setup : Setup} {request : Request} {disk : Disk} {path : String} {paths : List String}
  {skipMissing : Bool}

theorem Disk.rejects_of_error {fault : Fault} (h : disk.locate path = .error fault) :
    disk.Rejects skipMissing path ↔
      (fault = .missing ∨ fault = .notDirectory → skipMissing = false) := by
  constructor
  · intro hrejects hgone
    cases hrejects with
    | absent _ _ hstrict => exact hstrict
    | neither hlocate => cases h.symm.trans hlocate
    | inaccessible hlocate hother =>
      obtain rfl := Except.error.inj (h.symm.trans hlocate)
      exact absurd hgone hother
  · intro hstrict
    by_cases hgone : fault = .missing ∨ fault = .notDirectory
    · exact .absent h hgone (hstrict hgone)
    · exact .inaccessible h hgone

theorem Disk.rejects_of_ok {location : Location} (h : disk.locate path = .ok location) :
    disk.Rejects skipMissing path ↔
      (∀ content, disk.get? location ≠ some (.file content)) ∧
        disk.get? location ≠ some .directory ∧ skipMissing = false := by
  constructor
  · intro hrejects
    cases hrejects with
    | neither hlocate hfile hdirectory hstrict =>
      obtain rfl := Except.ok.inj (h.symm.trans hlocate)
      exact ⟨hfile, hdirectory, hstrict⟩
    | absent hlocate | inaccessible hlocate => cases h.symm.trans hlocate
  · rintro ⟨hfile, hdirectory, hstrict⟩
    exact .neither h hfile hdirectory hstrict

theorem Setup.exists_passOver_iff (setup : Setup) (path : String) (absence : Absence) :
    (∃ error, setup.passOver path absence = .error error) ↔ setup.skipMissing = false := by
  rw [passOver]
  cases setup.skipMissing <;> simp

theorem Setup.exists_inspect_iff :
    (∃ error, setup.inspect disk path = .error error) ↔ disk.Rejects setup.skipMissing path := by
  rw [inspect]
  cases hlocate : disk.locate path with
  | error fault =>
    rw [Disk.rejects_of_error hlocate]
    cases fault with
    | missing | notDirectory => simp [exists_passOver_iff]
    | nullByte | nameTooLong | isDirectory => simp
  | ok location =>
    rw [Disk.rejects_of_ok hlocate]
    dsimp only
    cases disk.get? location with
    | none => simp [exists_passOver_iff]
    | some entry =>
      cases entry with
      | file | directory => simp
      | device => simp [exists_passOver_iff]

theorem Setup.exists_select_iff :
    (∃ error, (setup.select disk paths).1 = .error error) ↔
      ∃ path ∈ paths, disk.Rejects setup.skipMissing path := by
  rw [exists_error_iff, select, exists_selectFrom_iff]
  simp only [← exists_inspect_iff, exists_error_iff, not_forall, exists_prop]

theorem Request.exists_loadConfig_iff :
    (∃ error, (request.loadConfig disk).1 = .error error) ↔
      Config.Unusable disk request.configFile.isSome request.configPath := by
  rw [loadConfig]
  cases request.configPath with
  | other found => exact ⟨fun _ => .notPath found, fun _ => ⟨_, rfl⟩⟩
  | path path =>
    dsimp only
    exact Config.exists_load_iff

theorem Request.exists_prepare_iff :
    (∃ error, (request.prepare disk).1 = .error error) ↔ request.Fails disk := by
  rw [Fails, ← exists_loadConfig_iff, prepare]
  cases request.loadConfig disk with
  | mk file loading =>
    cases file with
    | error error => simp
    | ok layer =>
      have hselect : (∃ error, ((request.setup layer).select disk request.paths).1 = .error error) ↔
          ∃ path ∈ request.paths, disk.Rejects request.skipMissing path := Setup.exists_select_iff
      simp only [reduceCtorEq, exists_false, false_or]
      rw [← hselect]
      cases ((request.setup layer).select disk request.paths).1 <;> simp

end Rejection

theorem Request.preparing_loadConfig (request : Request) (disk : Disk) :
    ∀ told ∈ (request.loadConfig disk).2, told.Preparing := by
  rw [loadConfig]
  split
  next => exact List.forall_mem_singleton.2 .loading
  next path _ =>
    refine List.forall_mem_cons.2 ⟨.loading, ?_⟩
    split
    next => simp
    next =>
      split
      next => simp
      next => exact List.forall_mem_singleton.2 (.loaded path)

theorem Request.preparing_prepare (request : Request) (disk : Disk) :
    ∀ told ∈ (request.prepare disk).2, told.Preparing := by
  have hloading := request.preparing_loadConfig disk
  rw [prepare]
  generalize request.loadConfig disk = loaded at hloading ⊢
  obtain ⟨file, loading⟩ := loaded
  cases file with
  | error error => exact hloading
  | ok layer =>
    exact List.forall_mem_append.2 ⟨hloading, (request.setup layer).preparing_selectFrom _ _ _⟩

def Output.Begins (output : Output) (start : String) : Prop :=
  match output with
  | .stdout line | .stderr line => (Wide.ofString start).units <+: line.units
  | .bar _ => False

def Output.IsFatal (output : Output) : Prop :=
  output.Begins "❌ Error: "

/-- A line about a single file: what became of it, or why it could not be read or written. -/
inductive Request.TellsFile (request : Request) (output : Output) : Prop
  | report {bar : Bool} {report : FileReport} {level : Level}
      (h : output ∈ (request.fileMessage bar report).flatMap level.print)
  | failure {path action reason : String} {level : Level}
      (h : output ∈ (Setup.failure path action reason).2.flatMap level.print)

def Severity.mark : Severity → String
  | .debug => "[debug] "
  | .info | .warn | .error => ""

def openings : List String :=
  ["Ignoring invalid ", "[debug] Loading configuration...",
    "[debug] Config loaded successfully from: ", "[debug] Excluded ", "Skipping "]

def fileOpenings : List String :=
  ["Modified ", "[DRY RUN] ", "[debug] Modified ", "[debug] [DRY RUN] ", "[debug] Unchanged ",
    "Error "]

def Apart (start start' : String) : Prop :=
  ¬(Wide.ofString start).units <+: (Wide.ofString start').units ∧
    ¬(Wide.ofString start').units <+: (Wide.ofString start).units

instance (start start' : String) : Decidable (Apart start start') :=
  inferInstanceAs (Decidable (_ ∧ _))

section Lines

variable {request : Request} {level : Level} {told : Message} {output : Output}
  {start start' : String}

theorem Apart.not_begins (apart : Apart start start') {units : List Nat}
    (h : (Wide.ofString start).units <+: units) : ¬(Wide.ofString start').units <+: units := by
  intro h'
  obtain hprefix | hprefix := List.prefix_or_prefix_of_prefix h h'
  · exact apart.1 hprefix
  · exact apart.2 hprefix

theorem Output.Begins.not_of_apart (h : output.Begins start) (apart : Apart start start') :
    ¬output.Begins start' := by
  cases output with
  | stdout line | stderr line => exact apart.not_begins h
  | bar => exact absurd h id

theorem begins_of_mem_print (severity : Severity) (start : String) {text : Wide}
    (h : (Wide.ofString start).units <+: text.units)
    (hout : output ∈ level.print ⟨severity, text⟩) :
    output.Begins (severity.mark ++ start) := by
  cases severity with
  | info =>
    simp only [Level.print] at hout
    split at hout
    next => cases hout
    next =>
      obtain rfl := List.mem_singleton.1 hout
      simpa [Output.Begins, Severity.mark] using h
  | debug =>
    simp only [Level.print] at hout
    split at hout
    next =>
      obtain rfl := List.mem_singleton.1 hout
      simpa [Output.Begins, Severity.mark] using h
    next => cases hout
  | warn | error =>
    obtain rfl := List.mem_singleton.1 hout
    simpa [Output.Begins, Severity.mark] using h

theorem Message.Preparing.begins (h : told.Preparing) (hout : output ∈ level.print told) :
    ∃ start ∈ openings, output.Begins start := by
  cases h with
  | loading =>
    exact ⟨_, by decide +kernel,
      begins_of_mem_print .debug "Loading configuration..." (by simp) hout⟩
  | loaded path =>
    exact ⟨_, by decide +kernel,
      begins_of_mem_print .debug "Config loaded successfully from: " (by simp) hout⟩
  | excluded path =>
    exact ⟨_, by decide +kernel, begins_of_mem_print .debug "Excluded " (by simp) hout⟩
  | skipping path reason =>
    exact ⟨_, by decide +kernel, begins_of_mem_print .warn "Skipping " (by simp) hout⟩

theorem Level.begins_choose {verbose : Bool} {named : Option String}
    (h : output ∈ (Level.choose verbose named).2) : ∃ start ∈ openings, output.Begins start := by
  cases named with
  | none => cases h
  | some name =>
    simp only [choose] at h
    split at h
    next => cases h
    next =>
      obtain rfl := List.mem_singleton.1 h
      exact ⟨"Ignoring invalid ", by decide, by simp [Output.Begins]⟩

theorem Request.fileMessage_begins {bar : Bool} {report : FileReport}
    (h : told ∈ request.fileMessage bar report) (hout : output ∈ level.print told) :
    ∃ start ∈ fileOpenings, output.Begins start := by
  obtain ⟨path, outcome⟩ := report
  cases outcome with
  | modified comments lines =>
    obtain rfl := List.mem_singleton.1 h
    cases hdry : request.dryRun with
    | false =>
      refine ⟨_, ?_, begins_of_mem_print _ "Modified " (by simp [FileReport.line, hdry]) hout⟩
      cases bar <;> decide +kernel
    | true =>
      refine ⟨_, ?_, begins_of_mem_print _ dryRunMark (by simp [FileReport.line, hdry]) hout⟩
      cases bar <;> decide +kernel
  | unchanged =>
    obtain rfl := List.mem_singleton.1 h
    exact ⟨_, by decide +kernel,
      begins_of_mem_print .debug "Unchanged " (by simp [FileReport.line]) hout⟩
  | failed reason => cases h

theorem Request.TellsFile.begins (h : request.TellsFile output) :
    ∃ start ∈ fileOpenings, output.Begins start := by
  cases h with
  | report h =>
    obtain ⟨told, htold, hout⟩ := List.mem_flatMap.1 h
    exact fileMessage_begins htold hout
  | @failure path action reason level h =>
    obtain ⟨told, htold, hout⟩ := List.mem_flatMap.1 h
    obtain rfl := List.mem_singleton.1 htold
    exact ⟨_, by decide +kernel, begins_of_mem_print .error "Error " (by simp) hout⟩

end Lines

theorem Setup.exists_run_iff {setup : Setup} {disk : Disk} {paths : List String} :
    (∃ error, (setup.run disk paths).1 = .error error) ↔
      ∃ path ∈ paths, disk.Rejects setup.skipMissing path := by
  rw [← exists_select_iff, run]
  cases setup.select disk paths with
  | mk result log => cases result <;> simp

theorem Setup.exists_runWith_iff {σ ε : Type} {setup : Setup} {callbacks : Callbacks σ ε}
    {disk : Disk} {paths : List String} {memory : σ} (returns : callbacks.NeverThrow) :
    (∃ error state, (setup.runWith callbacks paths).run (disk, memory) = .error error state) ↔
      ∃ path ∈ paths, disk.Rejects setup.skipMissing path := by
  obtain ⟨memory', hreplay⟩ := returns.exists_replay (setup.run disk paths).2 memory
  rw [← exists_run_iff]
  simp only [run_runWith, hreplay]
  cases (setup.run disk paths).1 <;> simp

structure Report.Aborted (report : Report) (request : Request) (disk : Disk) : Prop where
  exitCode : report.exitCode = 1
  untouched : report.disk = disk
  noBar : ∀ call, .bar call ∉ report.output
  noFile : ∀ output ∈ report.output, ¬request.TellsFile output
  last : ∃ before reason, report.output = before ++ [.stderr ("❌ Error: " ++ reason)] ∧
    ∀ output ∈ before, ¬output.IsFatal

namespace Request

variable {request : Request} {level : Level} {named : Option String} {seconds : String}
  {disk : Disk}

theorem exitCode_run (request : Request) (named : Option String) (seconds : String) (disk : Disk) :
    (request.run named seconds disk).exitCode = match (request.prepare disk).1 with
      | .error _ => 1
      | .ok _ => 0 := by
  simp only [run, runAt]
  generalize request.prepare disk = prepared
  obtain ⟨result, log⟩ := prepared
  cases result <;> rfl

theorem disk_run (request : Request) (named : Option String) (seconds : String) (disk : Disk) :
    (request.run named seconds disk).disk = match (request.prepare disk).1 with
      | .error _ => disk
      | .ok (setup, files) => (setup.stripFiles disk files).1 := by
  simp only [run, runAt]
  generalize request.prepare disk = prepared
  obtain ⟨result, log⟩ := prepared
  cases result <;> rfl

theorem exitCode_run_iff :
    ((request.run named seconds disk).exitCode = 1 ↔ request.Fails disk) ∧
      ((request.run named seconds disk).exitCode = 0 ↔ ¬request.Fails disk) := by
  rw [← exists_prepare_iff, exitCode_run]
  cases (request.prepare disk).1 <;> simp

theorem begins_of_mem_prepare {output : Output}
    (h : output ∈ (request.prepare disk).2.flatMap level.print) :
    ∃ start ∈ openings, output.Begins start := by
  obtain ⟨told, htold, hout⟩ := List.mem_flatMap.1 h
  exact (request.preparing_prepare disk told htold).begins hout

theorem run_of_error {error : SessionError} (h : (request.prepare disk).1 = .error error) :
    request.run named seconds disk =
      { exitCode := 1
        output := (Level.choose request.verbose named).2
          ++ ((request.prepare disk).2.flatMap (Level.choose request.verbose named).1.print
            ++ [.stderr ("❌ Error: " ++ error.message)])
        disk } := by
  simp only [run, runAt]
  generalize request.prepare disk = prepared at h ⊢
  obtain ⟨result, log⟩ := prepared
  obtain rfl : result = .error error := h
  rfl

theorem exists_output_run (h : request.Fails disk) :
    ∃ before reason, (request.run named seconds disk).output =
        before ++ [.stderr ("❌ Error: " ++ reason)] ∧
      ∀ output ∈ before, ∃ start ∈ openings, output.Begins start := by
  obtain ⟨error, herror⟩ := exists_prepare_iff.2 h
  rw [run_of_error herror]
  exact ⟨_, error.message, (List.append_assoc _ _ _).symm,
    List.forall_mem_append.2 ⟨fun _ => Level.begins_choose, fun _ => begins_of_mem_prepare⟩⟩

theorem aborted_run (h : request.Fails disk) :
    (request.run named seconds disk).Aborted request disk := by
  obtain ⟨before, reason, houtput, hbefore⟩ := @exists_output_run request named seconds disk h
  have hfatal : Output.Begins (.stderr ("❌ Error: " ++ reason)) "❌ Error: " := by
    simp [Output.Begins]
  have hbegins : ∀ output ∈ (request.run named seconds disk).output,
      ∃ start ∈ "❌ Error: " :: openings, output.Begins start := by
    rw [houtput]
    refine List.forall_mem_append.2 ⟨fun output hout => ?_, ?_⟩
    · obtain ⟨start, hstart, hbegins⟩ := hbefore output hout
      exact ⟨start, List.mem_cons_of_mem _ hstart, hbegins⟩
    · exact List.forall_mem_singleton.2 ⟨_, List.mem_cons_self, hfatal⟩
  have apart : ∀ start ∈ "❌ Error: " :: openings, ∀ start' ∈ fileOpenings, Apart start start' := by
    decide +kernel
  have apartFatal : ∀ start ∈ openings, Apart start "❌ Error: " := by decide +kernel
  constructor
  case exitCode => exact exitCode_run_iff.1.2 h
  case untouched =>
    obtain ⟨error, herror⟩ := exists_prepare_iff.2 h
    rw [run_of_error herror]
  case noBar =>
    intro call hcall
    obtain ⟨start, _, hbegins⟩ := hbegins _ hcall
    exact hbegins
  case noFile =>
    intro output hout hfile
    obtain ⟨start, hstart, hbegins⟩ := hbegins output hout
    obtain ⟨start', hstart', hbegins'⟩ := hfile.begins
    exact hbegins.not_of_apart (apart start hstart start' hstart') hbegins'
  case last =>
    refine ⟨before, reason, houtput, fun output hout => ?_⟩
    obtain ⟨start, hstart, hbegins⟩ := hbefore output hout
    exact hbegins.not_of_apart (apartFatal start hstart)

/-- A session fails if its settings cannot be loaded or one of its paths is rejected, and then it
has done nothing but tell why. It gets through otherwise, whatever becomes of the single files. A
run by itself ends with an error if one of its paths is rejected, before it has changed the tree.
Only what a callback throws comes later, and it leaves the files that were stripped until then. -/
theorem run_fatal {σ ε : Type} (request : Request) (named : Option String) (seconds : String)
    (disk : Disk) (setup : Setup) (callbacks : Callbacks σ ε) (paths : List String) (memory : σ) :
    ((request.run named seconds disk).exitCode = 1 ↔ request.Fails disk) ∧
      ((request.run named seconds disk).exitCode = 0 ↔ ¬request.Fails disk) ∧
      (request.Fails disk → (request.run named seconds disk).Aborted request disk) ∧
      (callbacks.NeverThrow →
        ((∃ error state,
            (setup.runWith callbacks paths).run (disk, memory) = .error error state) ↔
          ∃ path ∈ paths, disk.Rejects setup.skipMissing path) ∧
        ∀ error state, (setup.runWith callbacks paths).run (disk, memory) = .error error state →
          state.1 = disk) ∧
      ∀ error state, (setup.runWith callbacks paths).run (disk, memory) = .error error state ↔
        (∃ reason memory', error = .selection reason ∧
          callbacks.replay (setup.run disk paths).2 memory = .ok () memory' ∧
          (setup.run disk paths).1 = .error reason ∧ state = (disk, memory')) ∨
        ∃ thrown before memory', error = .thrown thrown ∧
          callbacks.replay (setup.run disk paths).2 memory = .error (thrown, before) memory' ∧
          state = (setup.treeAfter disk paths before, memory') := by
  refine ⟨exitCode_run_iff.1, exitCode_run_iff.2, aborted_run, fun returns => ?_,
    fun _ _ => Setup.runWith_eq_error_iff⟩
  exact ⟨Setup.exists_runWith_iff returns, fun _ _ => Setup.runWith_error_of_neverThrow returns⟩

def keeping : Callbacks (List FileResult) String where
  onFile result := modify (· ++ [result])

theorem run_fatal_missing :
    ({ paths := ["a.rs", "gone.rs"] } : Request).Fails (Setup.ofTexts [("a.rs", "x // y\n")]) ∧
      (({ paths := ["a.rs", "gone.rs"] } : Request).run none "0.00"
        (Setup.ofTexts [("a.rs", "x // y\n")])).Aborted
          { paths := ["a.rs", "gone.rs"] } (Setup.ofTexts [("a.rs", "x // y\n")]) ∧
      keeping.NeverThrow ∧
      ∃ error state,
        (({} : Setup).runWith keeping ["a.rs", "gone.rs"]).run
            (Setup.ofTexts [("a.rs", "x // y\n")], []) = .error error state ∧
          state.1 = Setup.ofTexts [("a.rs", "x // y\n")] := by
  have hrejects : (Setup.ofTexts [("a.rs", "x // y\n")]).Rejects false "gone.rs" :=
    @Disk.Rejects.absent _ _ _ .missing rfl (.inl rfl) rfl
  have hfails : ({ paths := ["a.rs", "gone.rs"] } : Request).Fails
      (Setup.ofTexts [("a.rs", "x // y\n")]) := .inr ⟨"gone.rs", by decide, hrejects⟩
  have returns : keeping.NeverThrow := by
    intro event memory
    cases event <;> exact ⟨_, rfl⟩
  obtain ⟨-, -, haborted, hcalling, -⟩ := run_fatal { paths := ["a.rs", "gone.rs"] } none "0.00"
    (Setup.ofTexts [("a.rs", "x // y\n")]) {} keeping ["a.rs", "gone.rs"] []
  obtain ⟨hends, hkept⟩ := hcalling returns
  obtain ⟨error, state, h⟩ := hends.2 ⟨"gone.rs", by decide, hrejects⟩
  exact ⟨hfails, haborted hfails, returns, error, state, h, hkept error state h⟩

def halting : Callbacks Unit String where
  onFile _ := throw "halt"

/-- A hook that throws ends the run with its file rewritten. A file of settings that is no object
ends a session, although it can be read and no field in it is wrong. -/
theorem fatal_halting :
    (({} : Setup).runWith halting ["a.rs"]).run (Setup.ofTexts [("a.rs", "x // y\n")], ()) =
        .error (.thrown "halt") (Setup.ofTexts [("a.rs", "x\n")], ()) ∧
      Setup.ofTexts [("a.rs", "x\n")] ≠ Setup.ofTexts [("a.rs", "x // y\n")] ∧
      Json.parse (Json.stripComments "[]".toList) = some (.array []) ∧
      (∀ path ∈ ["a.rs"], ¬(Setup.ofTexts [("a.rs", "x // y\n"),
        (Config.defaultFile, "[]")]).Rejects false path) ∧
      (({ paths := ["a.rs"] } : Request).run none "0.00" (Setup.ofTexts [("a.rs", "x // y\n"),
        (Config.defaultFile, "[]")])).exitCode = 1 := by
  have hlocate : (Setup.ofTexts [("a.rs", "x // y\n"), (Config.defaultFile, "[]")]).locate "a.rs" =
      .ok ["a.rs"] := rfl
  refine ⟨rfl, fun hsame => ?_, rfl, List.forall_mem_singleton.2 fun hrejects => ?_, rfl⟩
  · have hread := congrArg (Setup.readText · "a.rs") hsame
    exact absurd (Except.ok.inj hread) (by decide)
  · obtain ⟨hfile, -⟩ := (Disk.rejects_of_ok hlocate).1 hrejects
    exact hfile _ rfl

end Request

end LineComment
