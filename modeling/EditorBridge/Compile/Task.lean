import EditorBridge.Compile.Report

/-!
# Compile tasks

A compile that runs in the background, as the steps it takes: it records entries in a journal that
it shares with other tasks, and it starts one program. A task is data, so that it can be run to its
end alone, step by step among others, or on a log that fails.
-/

namespace EditorBridge.Compile

/-- What a task has still to do. -/
inductive Task where
  /-- Nothing; the compile has this result. -/
  | finished (result : Result)
  /-- Record an entry and go on. -/
  | record (entry : Entry) (rest : Task)
  /-- Run a program and go on with its outcome. -/
  | launch (invocation : Invocation) (rest : Outcome → Task)

namespace Task

/-- Record entries one after another, then go on. -/
def recordAll (entries : List Entry) (rest : Task) : Task :=
  entries.foldr .record rest

/-- Report a result, which is then the task's own. -/
def reporting (result : Result) : Task :=
  recordAll (report result) (.finished result)

/-- The task for a request: announce the file, run the compiler, report the result. -/
def dispatch (request : Request) : Task :=
  .record (.line ("Compiling: " ++ request.filePath.display))
    (.launch request.invocation fun outcome => reporting (.ofOutcome request outcome))

/-- What a task that has run to its end leaves. -/
structure Run (σ : Type) where
  /-- The entries it recorded, in order. -/
  entries : List Entry
  /-- Its result, unless it died on a log that failed. -/
  result : Option Result
  /-- The state of the system after it. -/
  system : σ

/-- Run a task to its end. The system runs programs by `launch`. The log fails at the appended
lines whose number, counted from zero, `fails` holds for; a line that fails is not recorded, and
the task dies there. -/
def run {σ : Type} (launch : Invocation → σ → Outcome × σ) (fails : Nat → Bool) :
    Task → Nat → σ → Run σ
  | .finished result, _, system => ⟨[], some result, system⟩
  | .record (.line text) rest, appended, system =>
    if fails appended then ⟨[], none, system⟩
    else
      let after := run launch fails rest (appended + 1) system
      { after with entries := .line text :: after.entries }
  | .record (.notification shown) rest, appended, system =>
    let after := run launch fails rest appended system
    { after with entries := .notification shown :: after.entries }
  | .launch invocation rest, appended, system =>
    let (outcome, system) := launch invocation system
    run launch fails (rest outcome) appended system

/-- Run a task to its end on a log that never fails. -/
def complete {σ : Type} (launch : Invocation → σ → Outcome × σ) (task : Task) (system : σ) :
    Run σ :=
  task.run launch (fun _ => false) 0 system

/-- What is shown for a task that died before it reported. The runtime's own words for what the task
died of would follow behind a colon; they are not modelled, and only this beginning of the message is
ever relied on. -/
def deathNotice : Entry := .error "Compilation failed: Compile task failed"

/-- Run a task that nobody waits for. Where it dies, the journal gets a notice instead of the
report, so no task ends in silence. -/
def detached {σ : Type} (launch : Invocation → σ → Outcome × σ) (fails : Nat → Bool) (task : Task)
    (system : σ) : Run σ :=
  let after := task.run launch fails 0 system
  if after.result.isSome then after
  else { after with entries := after.entries ++ [deathNotice] }

end Task

end EditorBridge.Compile
