import LineComment.Proofs.DryRun

namespace LineComment

def FileReport.Failed (report : FileReport) : Prop :=
  ∃ reason, report.outcome = .failed reason

instance Disk.decidableApart (disk : Disk) (path path' : String) :
    Decidable (disk.Apart path path') :=
  match h : disk.locate path with
  | .error _ => isTrue fun _ hlocate => by cases h.symm.trans hlocate
  | .ok location =>
    match h' : disk.locate path' with
    | .error _ => isTrue fun _ _ hlocate => by cases h'.symm.trans hlocate
    | .ok location' =>
      if heq : location = location' then
        isFalse fun apart => apart location h (heq ▸ h')
      else
        isTrue fun _ hlocate hlocate' =>
          heq ((Except.ok.inj (h.symm.trans hlocate)).trans
            (Except.ok.inj (hlocate'.symm.trans h')))

abbrev Working := EStateM String (Disk × List Message)

namespace Setup

open Policy

variable {setup : Setup} {disk after : Disk} {path reason : String} {location : Location}
  {files : List String} {total done : Nat} {told : List Message}

def readInPlace (path : String) : Working String := do
  match readText (← get).1 path with
  | .error reason => throw reason
  | .ok text => pure text

def writeInPlace (path : String) (content : ByteArray) : Working Unit := do
  let (disk, told) ← get
  match disk.write path content with
  | .error reason => throw reason
  | .ok disk => set (disk, told)

def fail (path action reason : String) : Working FileReport := do
  let (report, log) := failure path action reason
  modify fun (disk, told) => (disk, told ++ log)
  pure report

/-- Strips one file in place. What is thrown on the way is caught. -/
def attempt (setup : Setup) (path : String) : Working FileReport := do
  match ← observing (readInPlace path) with
  | .error reason => fail path "reading" reason
  | .ok text =>
    let modified := setup.config.modified path text
    if !(setup.config.strip text.toList).changed then pure ⟨path, .unchanged⟩
    else if setup.dryRun then pure modified
    else
      match ← observing (writeInPlace path (setup.config.strippedBytes text)) with
      | .error reason => fail path "writing" reason
      | .ok () => pure modified

theorem run_observing {α : Type} (step : Working α) (state : Disk × List Message) :
    (observing step).run state = match step.run state with
      | .ok a state => .ok (.ok a) state
      | .error reason state => .ok (.error reason) state := by
  simp only [EStateM.run, observing, tryCatch, tryCatchThe, MonadExceptOf.tryCatch,
    EStateM.tryCatch, bind, EStateM.bind]
  cases step state <;> rfl

theorem run_readInPlace (disk : Disk) (told : List Message) (path : String) :
    (observing (readInPlace path)).run (disk, told) = .ok (readText disk path) (disk, told) := by
  rw [run_observing, readInPlace, EStateM.run_bind, EStateM.run_get]
  dsimp only
  cases readText disk path <;> rfl

theorem run_writeInPlace (disk : Disk) (told : List Message) (path : String)
    (content : ByteArray) :
    (observing (writeInPlace path content)).run (disk, told) =
      match disk.write path content with
      | .error reason => .ok (.error reason) (disk, told)
      | .ok disk => .ok (.ok ()) (disk, told) := by
  rw [run_observing, writeInPlace, EStateM.run_bind, EStateM.run_get]
  dsimp only
  cases disk.write path content <;> rfl

theorem run_attempt (setup : Setup) (disk : Disk) (told : List Message) (path : String) :
    (setup.attempt path).run (disk, told) =
      .ok (setup.stripFile disk path).2.1
        ((setup.stripFile disk path).1, told ++ (setup.stripFile disk path).2.2) := by
  rw [attempt, EStateM.run_bind, run_readInPlace, stripFile]
  cases readText disk path with
  | error reason => rfl
  | ok text =>
    dsimp only
    split
    next => simp
    next =>
      split
      next => simp [modified]
      next =>
        rw [EStateM.run_bind, run_writeInPlace, strippedBytes]
        cases disk.write path (String.ofList (setup.config.strip text.toList).content).toUTF8 with
        | error reason => rfl
        | ok disk => simp [modified]

theorem messages_stripFrom_cons (setup : Setup) (disk : Disk) (total done : Nat) (path : String)
    (files : List String) :
    (setup.stripFrom disk total done (path :: files)).2.filterMap Event.message? =
      (setup.stripFile disk path).2.2 ++
        (setup.stripFrom (setup.stripFile disk path).1 total (done + 1) files).2.filterMap
          Event.message? := by
  have hmessages (log : List Message) : (log.map Event.message).filterMap Event.message? = log := by
    rw [List.filterMap_map]
    exact List.filterMap_some
  rw [stripFrom_cons, List.filterMap_append, hmessages]
  rfl

theorem run_mapM_attempt (setup : Setup) (disk : Disk) (told : List Message) (total done : Nat)
    (files : List String) :
    (files.mapM setup.attempt).run (disk, told) =
      .ok ((setup.stripFrom disk total done files).2.filterMap Event.report?)
        ((setup.stripFrom disk total done files).1,
          told ++ (setup.stripFrom disk total done files).2.filterMap Event.message?) := by
  induction files generalizing disk told done with
  | nil => simp [stripFrom]
  | cons path files ih =>
    rw [List.mapM_cons, EStateM.run_bind, run_attempt]
    dsimp only
    rw [EStateM.run_bind, ih _ _ (done + 1), reports_stripFrom_cons, messages_stripFrom_cons,
      ← List.append_assoc]
    rfl

/-- What goes wrong with a file, where something does: it cannot be read, or it has a comment to
remove and cannot be written. -/
inductive Obstructed (setup : Setup) (disk : Disk) (path : String) : String → String → Prop
  | reading {reason : String} : readText disk path = .error reason →
      Obstructed setup disk path "reading" reason
  | writing {location : Location} {text reason : String} : disk.locate path = .ok location →
      setup.config.Commented disk location text → setup.dryRun = false →
      disk.refusal location = some reason → Obstructed setup disk path "writing" reason

theorem stripFile_obstructed (setup : Setup) (disk : Disk) (path : String) :
    (∃ action reason, setup.Obstructed disk path action reason ∧
        setup.stripFile disk path = (disk, ⟨path, .failed (some reason)⟩,
          [⟨.error, "Error " ++ action ++ " " ++ path ++ ": " ++ reason⟩])) ∨
      (∀ action reason, ¬setup.Obstructed disk path action reason) ∧
        ¬(setup.stripFile disk path).2.1.Failed ∧ (setup.stripFile disk path).2.2 = [] := by
  have hhandled := setup.handled disk path
  generalize setup.stripFile disk path = result at hhandled ⊢
  have hmodified (text : String) : ¬(setup.config.modified path text).Failed := by
    rintro ⟨_, h⟩
    cases h
  cases hhandled with
  | @unreadable reason hread => exact .inl ⟨"reading", reason, .reading hread, rfl⟩
  | @refused _ _ reason hlocate hcommented real refused =>
    exact .inl ⟨"writing", reason, .writing hlocate hcommented real refused, rfl⟩
  | plain hread hkeep =>
    refine .inr ⟨?_, ?_, rfl⟩
    · rintro _ _ (herror | ⟨hlocate, hcommented⟩)
      · cases hread.symm.trans herror
      · exact not_commented_of_unchanged hread hkeep hlocate hcommented
    · rintro ⟨_, h⟩
      cases h
  | foreseen hlocate hcommented dry =>
    refine .inr ⟨?_, hmodified _, rfl⟩
    rintro _ _ (herror | ⟨-, -, real, -⟩)
    · exact not_commented_of_error herror hlocate hcommented
    · cases dry.symm.trans real
  | written hlocate hcommented real free =>
    refine .inr ⟨?_, hmodified _, rfl⟩
    rintro _ _ (herror | ⟨hlocate', -, -, refused⟩)
    · exact not_commented_of_error herror hlocate hcommented
    · obtain rfl := Except.ok.inj (hlocate.symm.trans hlocate')
      cases free.symm.trans refused

theorem get?_stripFile_of_ne (haway : disk.locate path ≠ .ok location) :
    (setup.stripFile disk path).1.get? location = disk.get? location := by
  obtain hkept | hsettled := setup.stripFile_fst_eq_or disk path
  · rw [hkept]
  · rw [hsettled]
    exact get?_settle fun _ hlocate => absurd hlocate haway

theorem locate_stripFile (setup : Setup) (disk : Disk) (path path' : String) :
    (setup.stripFile disk path).1.locate path' = disk.locate path' := by
  obtain hkept | hsettled := setup.stripFile_fst_eq_or disk path
  · rw [hkept]
  · rw [hsettled, locate_settle]

theorem get?_stripFrom_of_ne (haway : ∀ path ∈ files, disk.locate path ≠ .ok location) :
    (setup.stripFrom disk total done files).1.get? location = disk.get? location := by
  induction files generalizing disk done with
  | nil => rfl
  | cons path files ih =>
    obtain ⟨hpath, hfiles⟩ := List.forall_mem_cons.1 haway
    rw [stripFrom_cons, ih, get?_stripFile_of_ne hpath]
    intro path' hmem
    rw [locate_stripFile]
    exact hfiles path' hmem

theorem get?_stripFile_congr (h : after.ReadsAs disk (path :: files))
    (hlocate : disk.locate path = .ok location) :
    (setup.stripFile after path).1.get? location = (setup.stripFile disk path).1.get? location := by
  have hlocate' : after.locate path = .ok location :=
    (Disk.locate_congr h.shape path).trans hlocate
  have hkept : after.get? location = disk.get? location :=
    h.get? path List.mem_cons_self location hlocate
  have hread : readText after path = readText disk path :=
    readText_congr h.shape (h.get? path List.mem_cons_self)
  have hhandled := setup.handled disk path
  generalize setup.stripFile disk path = result at hhandled ⊢
  cases hhandled with
  | unreadable herror => rw [stripFile_of_error (hread.trans herror), hkept]
  | plain htext hkeep => rw [stripFile_of_unchanged (hread.trans htext) hkeep, hkept]
  | foreseen hfound hcommented dry =>
    obtain rfl := Except.ok.inj (hlocate.symm.trans hfound)
    rw [stripFile_of_dryRun hlocate' (hcommented.congr hkept) dry, hkept]
  | refused hfound hcommented real refused =>
    obtain rfl := Except.ok.inj (hlocate.symm.trans hfound)
    rw [← h.refusal] at refused
    rw [stripFile_of_refusal hlocate' (hcommented.congr hkept) real refused, hkept]
  | written hfound hcommented real free =>
    obtain rfl := Except.ok.inj (hlocate.symm.trans hfound)
    rw [← h.refusal] at free
    rw [stripFile_of_write hlocate' (hcommented.congr hkept) real free,
      Disk.get?_put _ _ _ _ hcommented.ne_root, Disk.get?_put _ _ _ _ hcommented.ne_root]
    simp

theorem stripFrom_isolated (h : after.ReadsAs disk files) (apart : files.Pairwise disk.Apart) :
    (setup.stripFrom after total done files).2.filterMap Event.report? =
        files.map (fun path => (setup.stripFile disk path).2.1) ∧
      (setup.stripFrom after total done files).2.filterMap Event.message? =
        files.flatMap (fun path => (setup.stripFile disk path).2.2) ∧
      ∀ path ∈ files, ∀ location, disk.locate path = .ok location →
        (setup.stripFrom after total done files).1.get? location =
          (setup.stripFile disk path).1.get? location := by
  induction files generalizing after done with
  | nil => exact ⟨rfl, rfl, fun _ hmem => absurd hmem List.not_mem_nil⟩
  | cons path files ih =>
    obtain ⟨hpath, hfiles⟩ := List.pairwise_cons.1 apart
    have hdrift : (setup.stripFile after path).1.ReadsAs disk files := readsAs_stripFile h hpath
    have htold : (setup.stripFile after path).2 = (setup.stripFile disk path).2 :=
      stripFile_snd_congr h
    obtain ⟨hreports, hmessages, hbytes⟩ := @ih _ (done + 1) hdrift hfiles
    refine ⟨?_, ?_, List.forall_mem_cons.2 ⟨?_, hbytes⟩⟩
    · rw [reports_stripFrom_cons, hreports, htold, List.map_cons]
    · rw [messages_stripFrom_cons, hmessages, htold, List.flatMap_cons]
    · intro location hlocate
      -- No path to come leads to this file.
      rw [stripFrom_cons, get?_stripFrom_of_ne, get?_stripFile_congr h hlocate]
      intro path' hmem
      rw [Disk.locate_congr hdrift.shape]
      exact hpath path' hmem location hlocate

/-- Where the paths lead to different files, the files are stripped to the end, whatever is thrown on
the way. Each report, the messages and the bytes of each file are those of stripping it alone in the
tree at the start, and a file that no path leads to stays. A file fails exactly if it is obstructed.
Then it loses nothing, keeps its bytes, and has one message about it. The others have none. -/
theorem stripFiles_isolated (apart : files.Pairwise disk.Apart) :
    (files.mapM setup.attempt).run (disk, []) =
        .ok (files.map fun path => (setup.stripFile disk path).2.1)
          ((setup.stripFiles disk files).1,
            files.flatMap fun path => (setup.stripFile disk path).2.2) ∧
      (setup.stripFiles disk files).2.filterMap Event.report? =
        files.map (fun path => (setup.stripFile disk path).2.1) ∧
      (setup.stripFiles disk files).2.filterMap Event.message? =
        files.flatMap (fun path => (setup.stripFile disk path).2.2) ∧
      (∀ path ∈ files, ∀ location, disk.locate path = .ok location →
        (setup.stripFiles disk files).1.get? location =
          (setup.stripFile disk path).1.get? location) ∧
      (∀ location, (∀ path ∈ files, disk.locate path ≠ .ok location) →
        (setup.stripFiles disk files).1.get? location = disk.get? location) ∧
      ∀ path ∈ files,
        (∃ action reason, setup.Obstructed disk path action reason ∧
          (setup.stripFile disk path).2 = (⟨path, .failed (some reason)⟩,
            [⟨.error, "Error " ++ action ++ " " ++ path ++ ": " ++ reason⟩]) ∧
          (setup.stripFile disk path).2.1.result = ⟨path, .failed, 0, 0, some reason⟩ ∧
          ∀ location, disk.locate path = .ok location →
            (setup.stripFiles disk files).1.get? location = disk.get? location) ∨
        (∀ action reason, ¬setup.Obstructed disk path action reason) ∧
          ¬(setup.stripFile disk path).2.1.Failed ∧ (setup.stripFile disk path).2.2 = [] := by
  have hreads : disk.ReadsAs disk files := ⟨rfl, rfl, fun _ _ _ _ => rfl⟩
  obtain ⟨hreports, hmessages, hbytes⟩ :=
    @stripFrom_isolated setup disk disk files files.length 0 hreads apart
  have hbytes' : ∀ path ∈ files, ∀ location, disk.locate path = .ok location →
      (setup.stripFiles disk files).1.get? location =
        (setup.stripFile disk path).1.get? location := hbytes
  refine ⟨?_, hreports, hmessages, hbytes', fun _ => get?_stripFrom_of_ne, ?_⟩
  · rw [run_mapM_attempt setup disk [] files.length 0, hreports, hmessages, List.nil_append]
    rfl
  · intro path hmem
    obtain ⟨action, reason, hobstructed, hfile⟩ | hfree := setup.stripFile_obstructed disk path
    · have hkept := hbytes' path hmem
      rw [hfile] at hkept ⊢
      exact .inl ⟨action, reason, hobstructed, rfl, rfl, hkept⟩
    · exact .inr hfree

def obstacles : Disk where
  here := []
  entries := [(["a.rs"], .file "x // y\n".toUTF8), (["b.rs"], .file "z // w\n".toUTF8),
    (["c.rs"], .file ⟨#[0xFF]⟩), (["d"], .directory)]
  refusal := fun location => if location = ["b.rs"] then some "EACCES" else none

theorem stripFiles_isolated_obstacles :
    ["gone.rs", "b.rs", "c.rs", "a.rs", "d"].Pairwise obstacles.Apart ∧
      (({} : Setup).stripFiles obstacles ["gone.rs", "b.rs", "c.rs", "a.rs", "d"]).2.filterMap
          Event.report? =
        [⟨"gone.rs", .failed (some "ENOENT: no such file or directory, open 'gone.rs'")⟩,
          ⟨"b.rs", .failed (some "EACCES")⟩, ⟨"c.rs", .failed (some undecodable)⟩,
          ⟨"a.rs", .modified 1 0⟩,
          ⟨"d", .failed (some "EISDIR: illegal operation on a directory, read")⟩] ∧
      ((({} : Setup).stripFiles obstacles ["gone.rs", "b.rs", "c.rs", "a.rs", "d"]).2.filterMap
          Event.message?).map (fun told => told.text.text) =
        ["Error reading gone.rs: ENOENT: no such file or directory, open 'gone.rs'",
          "Error writing b.rs: EACCES", "Error reading c.rs: " ++ undecodable,
          "Error reading d: EISDIR: illegal operation on a directory, read"] := by
  have apart : ["gone.rs", "b.rs", "c.rs", "a.rs", "d"].Pairwise obstacles.Apart := by decide
  obtain ⟨-, hreports, hmessages, -⟩ := @stripFiles_isolated {} obstacles _ apart
  exact ⟨apart, hreports.trans (by decide +kernel), by rw [hmessages]; decide +kernel⟩

end Setup

end LineComment
