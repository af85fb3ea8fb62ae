import LineComment.Callbacks
import LineComment.Proofs.DryRun

namespace LineComment

variable {σ ε : Type}

def Event.isProgress : Event → Bool
  | .progress _ => true
  | .message _ | .file _ => false

namespace Callbacks

variable {callbacks : Callbacks σ ε} {events before : List Event} {memory memory' : σ} {error : ε}

/-- Makes the calls about events, up to the first that throws. What it throws comes with the events
before it. -/
def replay (callbacks : Callbacks σ ε) : List Event → σ → EStateM.Result (ε × List Event) σ Unit
  | [], memory => .ok () memory
  | event :: events, memory =>
    match callbacks.call event memory with
    | .error error memory => .error (error, []) memory
    | .ok () memory =>
      match callbacks.replay events memory with
      | .error (error, before) memory => .error (error, event :: before) memory
      | .ok () memory => .ok () memory

def NeverThrow (callbacks : Callbacks σ ε) : Prop :=
  ∀ event memory, ∃ memory', callbacks.call event memory = .ok () memory'

theorem replay_append (callbacks : Callbacks σ ε) (events events' : List Event) (memory : σ) :
    callbacks.replay (events ++ events') memory =
      match callbacks.replay events memory with
      | .error thrown memory => .error thrown memory
      | .ok () memory =>
        match callbacks.replay events' memory with
        | .error (error, before) memory => .error (error, events ++ before) memory
        | .ok () memory => .ok () memory := by
  induction events generalizing memory with
  | nil =>
    simp only [List.nil_append, replay]
    cases callbacks.replay events' memory <;> rfl
  | cons event events ih =>
    simp only [List.cons_append, replay]
    cases callbacks.call event memory with
    | error => rfl
    | ok _ memory =>
      dsimp only
      rw [ih]
      cases callbacks.replay events memory with
      | error => rfl
      | ok _ memory =>
        dsimp only
        cases callbacks.replay events' memory <;> rfl

theorem prefix_of_replay (h : callbacks.replay events memory = .error (error, before) memory') :
    before <+: events.dropLast := by
  induction events generalizing memory before with
  | nil => cases h
  | cons event events ih =>
    rw [replay] at h
    split at h
    next =>
      cases h
      exact List.nil_prefix
    next =>
      split at h
      next hrest =>
        cases h
        cases events with
        | nil => cases hrest
        | cons event' events => exact List.cons_prefix_cons.2 ⟨rfl, ih hrest⟩
      next => cases h

theorem NeverThrow.exists_replay (h : callbacks.NeverThrow) (events : List Event) (memory : σ) :
    ∃ memory', callbacks.replay events memory = .ok () memory' := by
  induction events generalizing memory with
  | nil => exact ⟨memory, rfl⟩
  | cons event events ih =>
    obtain ⟨memory', hcall⟩ := h event memory
    obtain ⟨memory'', hreplay⟩ := ih memory'
    exact ⟨memory'', by simp only [replay, hcall, hreplay]⟩

theorem run_tell (callbacks : Callbacks σ ε) (event : Event) (disk : Disk) (memory : σ) :
    (callbacks.tell event).run (disk, memory) =
      match callbacks.call event memory with
      | .error error memory => .error (.thrown error) (disk, memory)
      | .ok () memory => .ok () (disk, memory) := by
  simp only [tell, EStateM.run]
  cases callbacks.call event memory <;> rfl

theorem run_forM_tell (callbacks : Callbacks σ ε) (events : List Event) (disk : Disk)
    (memory : σ) :
    (events.forM callbacks.tell).run (disk, memory) =
      match callbacks.replay events memory with
      | .error (error, _) memory => .error (.thrown error) (disk, memory)
      | .ok () memory => .ok () (disk, memory) := by
  induction events generalizing memory with
  | nil => rfl
  | cons event events ih =>
    rw [List.forM_eq_forM, List.forM_cons, EStateM.run_bind, run_tell]
    simp only [replay]
    cases callbacks.call event memory with
    | error => rfl
    | ok _ memory =>
      dsimp only
      rw [← List.forM_eq_forM, ih]
      cases callbacks.replay events memory <;> rfl

end Callbacks

namespace Setup

open Callbacks

theorem countP_messages (log : List Message) :
    (log.map Event.message).countP Event.isProgress = 0 := by
  rw [List.countP_map]
  exact List.countP_eq_zero.2 fun _ _ => Bool.false_ne_true

theorem countP_of_replay {callbacks : Callbacks σ ε} {log : List Message} {memory memory' : σ}
    {error : ε} {before : List Event}
    (h : callbacks.replay (log.map .message) memory = .error (error, before) memory') :
    before.countP Event.isProgress = 0 := by
  have hprefix := (prefix_of_replay h).trans (List.dropLast_prefix _)
  have hle := hprefix.sublist.countP_le (p := Event.isProgress)
  rw [countP_messages] at hle
  exact Nat.le_zero.1 hle

theorem countP_told (log : List Message) (report : FileReport) (reached : Progress)
    (events : List Event) :
    (log.map Event.message ++ .file report :: .progress reached :: events).countP
        Event.isProgress =
      events.countP Event.isProgress + 1 := by
  rw [List.countP_append, countP_messages, Nat.zero_add, List.countP_cons_of_neg Bool.false_ne_true,
    List.countP_cons_of_pos rfl]

theorem run_selectWith (setup : Setup) (callbacks : Callbacks σ ε) (selection : Selection)
    (paths : List String) (disk : Disk) (memory : σ) :
    (setup.selectWith callbacks selection paths).run (disk, memory) =
      match callbacks.replay ((setup.selectFrom disk selection paths).2.map .message) memory with
      | .error (error, _) memory => .error (.thrown error) (disk, memory)
      | .ok () memory =>
        match (setup.selectFrom disk selection paths).1 with
        | .error error => .error (.selection error) (disk, memory)
        | .ok selection => .ok selection (disk, memory) := by
  induction paths generalizing selection memory with
  | nil => rfl
  | cons path paths ih =>
    rw [selectFrom, selectWith, EStateM.run_bind, EStateM.run_get]
    dsimp only
    cases setup.inspect disk path with
    | error error => rfl
    | ok finding =>
      cases finding with
      | skip reason =>
        dsimp only
        rw [EStateM.run_bind, callbacks.run_tell, List.map_cons, Callbacks.replay]
        cases callbacks.call _ memory with
        | error => rfl
        | ok _ memory =>
          dsimp only
          rw [ih]
          cases callbacks.replay _ memory <;> rfl
      | files found =>
        dsimp only
        rw [EStateM.run_bind, callbacks.run_forM_tell, List.map_append, callbacks.replay_append]
        cases callbacks.replay ((setup.gather selection found).2.map .message) memory with
        | error => rfl
        | ok _ memory =>
          dsimp only
          rw [ih]
          cases callbacks.replay _ memory <;> rfl

theorem run_stripWith (setup : Setup) (callbacks : Callbacks σ ε) (total done : Nat)
    (totals : Totals) (files : List String) (disk : Disk) (memory : σ) :
    (setup.stripWith callbacks total done totals files).run (disk, memory) =
      match callbacks.replay (setup.stripFrom disk total done files).2 memory with
      | .error (error, before) memory =>
        .error (.thrown error)
          ((setup.stripFrom disk total done (files.take (before.countP Event.isProgress + 1))).1,
            memory)
      | .ok () memory =>
        .ok (((setup.stripFrom disk total done files).2.filterMap Event.report?).foldl .add totals)
          ((setup.stripFrom disk total done files).1, memory) := by
  induction files generalizing disk memory done totals with
  | nil => rfl
  | cons path files ih =>
    -- No progress is told before the calls about the file at hand are over.
    rw [reports_stripFrom_cons, stripFrom_cons, callbacks.replay_append]
    simp only [stripWith, EStateM.run_bind, EStateM.run_get, EStateM.run_modify,
      callbacks.run_forM_tell, callbacks.run_tell, Callbacks.replay]
    cases hlog : callbacks.replay ((setup.stripFile disk path).2.2.map .message) memory with
    | error thrown memory =>
      obtain ⟨error, before⟩ := thrown
      simp only [countP_of_replay hlog]
      rfl
    | ok _ memory =>
      dsimp only
      cases callbacks.call (.file (setup.stripFile disk path).2.1) memory with
      | error error memory =>
        simp only [List.append_nil, countP_messages]
        rfl
      | ok _ memory =>
        dsimp only
        cases callbacks.call (.progress ⟨setup.label, done + 1, total⟩) memory with
        | error error memory =>
          simp only [List.countP_append, countP_messages]
          rfl
        | ok _ memory =>
          dsimp only
          rw [ih]
          cases callbacks.replay
            (setup.stripFrom (setup.stripFile disk path).1 total (done + 1) files).2 memory with
          | error thrown memory =>
            simp only [countP_told, List.take_succ_cons, stripFrom_cons]
          | ok _ memory => rfl

/-- The tree as a run has left it where it has told of events. One file is stripped for each time
that progress is told. -/
def treeAfter (setup : Setup) (disk : Disk) (paths : List String) (told : List Event) : Disk :=
  match (setup.select disk paths).1 with
  | .error _ => disk
  | .ok selection =>
    (setup.stripFiles disk (selection.files.take (told.countP Event.isProgress))).1

/-- A run that calls back ends like the run, unless a call throws. Then it ends there. -/
theorem run_runWith (setup : Setup) (callbacks : Callbacks σ ε) (paths : List String) (disk : Disk)
    (memory : σ) :
    (setup.runWith callbacks paths).run (disk, memory) =
      match callbacks.replay (setup.run disk paths).2 memory with
      | .error (error, before) memory =>
        .error (.thrown error) (setup.treeAfter disk paths before, memory)
      | .ok () memory =>
        match (setup.run disk paths).1 with
        | .error error => .error (.selection error) (disk, memory)
        | .ok after => .ok (setup.totals (setup.run disk paths).2) (after, memory) := by
  have hselect := setup.run_selectWith callbacks {} paths disk memory
  rw [runWith, EStateM.run_bind, hselect]
  simp only [treeAfter, run, select]
  generalize setup.selectFrom disk {} paths = selected
  obtain ⟨result, log⟩ := selected
  cases result with
  | error error =>
    dsimp only
    cases callbacks.replay (log.map .message) memory <;> rfl
  | ok selection =>
    dsimp only
    rw [callbacks.replay_append]
    cases hlog : callbacks.replay (log.map .message) memory with
    | error thrown memory =>
      obtain ⟨error, before⟩ := thrown
      simp only [countP_of_replay hlog]
      rfl
    | ok _ memory =>
      simp only [EStateM.run_bind, run_tell, stripFiles, replay]
      cases callbacks.call (.progress ⟨setup.label, 0, selection.files.length⟩) memory with
      | error error memory =>
        simp only [List.append_nil, countP_messages]
        rfl
      | ok _ memory =>
        dsimp only
        rw [run_stripWith]
        cases callbacks.replay (setup.stripFrom disk selection.files.length 0 selection.files).2
          memory with
        | error thrown memory =>
          simp only [stripFrom_fst_eq_foldl, List.countP_append, countP_messages, Nat.zero_add]
          rw [List.countP_cons_of_pos rfl]
        | ok _ memory =>
          simp only [totals, Totals.ofReports, List.filterMap_append, reports_messages]
          rfl

variable {setup : Setup} {callbacks : Callbacks σ ε} {disk : Disk} {paths : List String}
  {memory : σ} {error : RunError ε} {state : Disk × σ}

theorem runWith_eq_error_iff :
    (setup.runWith callbacks paths).run (disk, memory) = .error error state ↔
      (∃ reason memory', error = .selection reason ∧
        callbacks.replay (setup.run disk paths).2 memory = .ok () memory' ∧
        (setup.run disk paths).1 = .error reason ∧ state = (disk, memory')) ∨
      ∃ thrown before memory', error = .thrown thrown ∧
        callbacks.replay (setup.run disk paths).2 memory = .error (thrown, before) memory' ∧
        state = (setup.treeAfter disk paths before, memory') := by
  rw [run_runWith]
  constructor
  · intro h
    split at h
    next thrown before memory' hreplay =>
      cases h
      exact .inr ⟨thrown, before, memory', rfl, hreplay, rfl⟩
    next memory' hreplay =>
      split at h
      next reason hrun =>
        cases h
        exact .inl ⟨reason, memory', rfl, hreplay, hrun, rfl⟩
      next => cases h
  · rintro (⟨_, _, rfl, hreplay, hrun, rfl⟩ | ⟨_, _, _, rfl, hreplay, rfl⟩)
    · simp only [hreplay, hrun]
    · simp only [hreplay]

theorem runWith_error_of_neverThrow (returns : callbacks.NeverThrow)
    (h : (setup.runWith callbacks paths).run (disk, memory) = .error error state) :
    state.1 = disk := by
  obtain ⟨_, _, _, _, _, rfl⟩ | ⟨_, _, _, _, hthrown, _⟩ := runWith_eq_error_iff.1 h
  · rfl
  · obtain ⟨_, hreplay⟩ := returns.exists_replay (setup.run disk paths).2 memory
    cases hthrown.symm.trans hreplay

end Setup

end LineComment
