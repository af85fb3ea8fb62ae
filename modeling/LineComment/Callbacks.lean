import LineComment.Run

/-! A run that calls back. Nothing catches what a call throws: it ends the run, and what the run has
written stays written. -/

namespace LineComment

variable {σ ε : Type}

structure Callbacks (σ ε : Type) where
  log : Message → EStateM ε σ Unit := fun _ => pure ()
  onFile : FileResult → EStateM ε σ Unit := fun _ => pure ()
  onProgress : Progress → EStateM ε σ Unit := fun _ => pure ()

inductive RunError (ε : Type)
  | selection (error : SelectionError)
  | thrown (error : ε)
  deriving DecidableEq

abbrev Running (σ ε : Type) := EStateM (RunError ε) (Disk × σ)

namespace Callbacks

def call (callbacks : Callbacks σ ε) : Event → EStateM ε σ Unit
  | .message told => callbacks.log told
  | .file report => callbacks.onFile report.result
  | .progress reached => callbacks.onProgress reached

def tell (callbacks : Callbacks σ ε) (event : Event) : Running σ ε Unit :=
  fun (disk, memory) =>
    match callbacks.call event memory with
    | .ok () memory => .ok () (disk, memory)
    | .error error memory => .error (.thrown error) (disk, memory)

end Callbacks

namespace Setup

def selectWith (setup : Setup) (callbacks : Callbacks σ ε) (selection : Selection) :
    List String → Running σ ε Selection
  | [] => pure selection
  | path :: paths => do
    match setup.inspect (← get).1 path with
    | .error error => throw (.selection error)
    | .ok (.skip reason) =>
      callbacks.tell (.message ⟨.warn, "Skipping " ++ path ++ ": " ++ reason.text⟩)
      setup.selectWith callbacks
        { selection with skipped := selection.skipped ++ [(path, reason)] } paths
    | .ok (.files found) =>
      let (selection, gathered) := setup.gather selection found
      (gathered.map .message).forM callbacks.tell
      setup.selectWith callbacks selection paths

def stripWith (setup : Setup) (callbacks : Callbacks σ ε) (total done : Nat) (totals : Totals) :
    List String → Running σ ε Totals
  | [] => pure totals
  | path :: paths => do
    let (disk, report, log) := setup.stripFile (← get).1 path
    modify fun (_, memory) => (disk, memory)
    (log.map .message).forM callbacks.tell
    callbacks.tell (.file report)
    callbacks.tell (.progress ⟨setup.label, done + 1, total⟩)
    setup.stripWith callbacks total (done + 1) (totals.add report) paths

def runWith (setup : Setup) (callbacks : Callbacks σ ε) (paths : List String) :
    Running σ ε Totals := do
  let selection ← setup.selectWith callbacks {} paths
  callbacks.tell (.progress ⟨setup.label, 0, selection.files.length⟩)
  setup.stripWith callbacks selection.files.length 0 { dryRun := setup.dryRun } selection.files

end Setup

end LineComment
