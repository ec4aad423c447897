import EditorBridge.Proofs.Compile.Completion
import EditorBridge.Proofs.Server.Completion
import Mathlib.Data.List.Perm.Basic

/-!
# Handlers and compiles side by side

Calls come in while the handlers of earlier calls are held up and compiles run in the background. A
call is handled at once up to its first report. From then on any activity may take the next step:
its handler records an entry or goes on, or one of its compiles takes a step. The world may be a
different one whenever a handler goes on, and a program may end in any way.

## Main definitions

* `Compiling`: a compile that was started, with what is left of it.
* `Activity`: a call that was received, with what is left of its handler and of its compiles.
* `System`: the server, the journal and all activities.
* `System.Step`, `System.Reachable`: one step of the system, and the states that steps lead to.

## Main results

* `Reachable.forall_activities`: what holds when a call is received and is kept by every step of an
  activity holds of all activities.
* `Reachable.journal_perm`: the journal holds what the activities have recorded, no more and no
  less.
* `Reachable.perform`: dealing with one message after the other is one of the runs.
-/

namespace EditorBridge

open Compile (Task)

/-- A compile that was started. -/
structure Compiling where
  /-- What it had to do when it was started. -/
  begun : Task
  /-- What it has still to do. -/
  task : Task
  /-- What it has recorded. -/
  entries : List Entry

namespace Compiling

/-- A compile that has just been started. -/
def start (task : Task) : Compiling := ⟨task, task, []⟩

/-- One step of a compile, with what it records. -/
inductive Step (compiling : Compiling) : List Entry → Compiling → Prop where
  | take {recorded : List Entry} {rest : Task} :
      compiling.task.Step recorded rest →
        Step compiling recorded { compiling with
          task := rest, entries := compiling.entries ++ recorded }

/-- A compile that has ended. -/
def Ended (compiling : Compiling) : Prop :=
  ∃ result, compiling.task = .finished result

/-- However a compile can still end, with what it has recorded it is one of the ways in which it
could end when it was started. -/
def Faithful (compiling : Compiling) : Prop :=
  ∀ entries result, compiling.task.Yields entries result →
    compiling.begun.Yields (compiling.entries ++ entries) result

theorem faithful_start (task : Task) : (start task).Faithful :=
  fun _ _ hyields => hyields

/-- A step keeps a compile to the ways in which it could end. -/
theorem Step.faithful {compiling next : Compiling} {recorded : List Entry}
    (hstep : compiling.Step recorded next) (hfaithful : compiling.Faithful) : next.Faithful := by
  obtain ⟨htask⟩ := hstep
  intro entries result hyields
  rw [List.append_assoc]
  exact hfaithful _ _ (htask.yields hyields)

end Compiling

/-- A call that was received. -/
structure Activity where
  /-- The call. -/
  call : Rpc.Call
  /-- The server when the call was received. -/
  origin : Server
  /-- What the handler of the call has still to do. -/
  handler : Handler (Except Rpc.Refusal Json)
  /-- What the handler has recorded. -/
  entries : List Entry
  /-- The compiles that the handler has started. -/
  compiles : List Compiling

namespace Activity

/-- All that was recorded for a call, by its handler and by its compiles. -/
def recorded (activity : Activity) : List Entry :=
  activity.entries ++ activity.compiles.flatMap (·.entries)

/-- The handler of the call has answered. -/
def Returned (activity : Activity) : Prop :=
  ∃ value, activity.handler = .answer value

/-- Nothing is left to do for the call. -/
def Settled (activity : Activity) : Prop :=
  activity.Returned ∧ ∀ compiling ∈ activity.compiles, compiling.Ended

/-- The activity with a handler that goes on in some world. -/
def resumed (activity : Activity) (world : World) (server : Server) : Activity :=
  let pause := activity.handler.advance world server
  { activity with
    handler := pause.handler
    compiles := activity.compiles ++ pause.started.map .start }

/-- A call that was just received and handled up to its first report. -/
def receive (receipt : Receipt) (server : Server) : Activity :=
  resumed ⟨receipt.call, server, Rpc.handle receipt.call, [], []⟩ receipt.world server

/-- Nothing is recorded for a call before its handler is held up. -/
theorem recorded_receive (receipt : Receipt) (server : Server) :
    (receive receipt server).recorded = [] := by
  simp [receive, resumed, recorded, Compiling.start]

/-- One step of an activity, with the server before and after it and with what is recorded. -/
inductive Step (activity : Activity) (server : Server) : List Entry → Server → Activity → Prop where
  /-- The handler records an entry. -/
  | record {entry : Entry} {rest : Handler (Except Rpc.Refusal Json)} :
      activity.handler = .record entry rest →
        Step activity server [entry] server
          { activity with handler := rest, entries := activity.entries ++ [entry] }
  /-- The handler tells the editor something that is not part of the journal. -/
  | announce {message : String} {rest : Handler (Except Rpc.Refusal Json)} :
      activity.handler = .announce message rest →
        Step activity server [] server { activity with handler := rest }
  /-- The handler goes on until it has to report something. -/
  | resume (world : World) :
      Step activity server [] (activity.handler.advance world server).server
        (activity.resumed world server)
  /-- One of the compiles takes a step. -/
  | compile {earlier later : List Compiling} {compiling next : Compiling} {recorded : List Entry} :
      activity.compiles = earlier ++ compiling :: later → compiling.Step recorded next →
        Step activity server recorded server
          { activity with compiles := earlier ++ next :: later }

/-- A step leaves it as it is what was called, and which server received it. -/
theorem Step.call_origin_eq {activity next : Activity} {server after : Server}
    {recorded : List Entry} (hstep : activity.Step server recorded after next) :
    next.call = activity.call ∧ next.origin = activity.origin := by
  cases hstep <;> exact ⟨rfl, rfl⟩

/-- A compile that has just been started has recorded nothing. -/
theorem flatMap_entries_start (started : List Task) :
    (started.map Compiling.start).flatMap (·.entries) = [] := by
  simp [Compiling.start]

/-- What an activity has recorded grows by what its steps record. -/
theorem Step.recorded_perm {activity next : Activity} {server after : Server}
    {recorded : List Entry} (hstep : activity.Step server recorded after next) :
    next.recorded.Perm (activity.recorded ++ recorded) := by
  cases hstep with
  | record hhandler =>
    simp only [Activity.recorded, List.append_assoc]
    exact List.perm_append_comm.append_left _
  | announce hhandler => simp [Activity.recorded]
  | resume world =>
    simp [Activity.recorded, resumed, flatMap_entries_start]
  | compile hcompiles hcompile =>
    obtain ⟨htask⟩ := hcompile
    -- The new entry stands before those of later compiles, so only the order differs.
    simp only [Activity.recorded, hcompiles, List.flatMap_append, List.flatMap_cons,
      List.append_assoc]
    refine List.Perm.append_left _ (List.Perm.append_left _ (List.Perm.append_left _ ?_))
    exact List.perm_append_comm

/-- However the handler of an activity still ends, what it has recorded and started by then is as
promised. -/
def Promises (activity : Activity) (promise : List Entry → List Task → Prop) : Prop :=
  ∀ entries started answer, activity.handler.Yields entries started answer →
    promise (activity.entries ++ entries) (activity.compiles.map (·.begun) ++ started)

/-- A handler that goes on keeps its promises. -/
theorem promises_resumed {activity : Activity} {promise : List Entry → List Task → Prop}
    (hpromise : activity.Promises promise) (world : World) (server : Server) :
    (activity.resumed world server).Promises promise := by
  intro entries started answer hyields
  have hbegun : (activity.resumed world server).compiles.map (·.begun) =
      activity.compiles.map (·.begun) ++ (activity.handler.advance world server).started := by
    simp [resumed, Compiling.start, Function.comp_def]
  rw [hbegun, List.append_assoc]
  exact hpromise _ _ answer (Handler.yields_of_advance hyields)

/-- What a handler promises that is held up where the handler of a call is held up first, the call
promises too. -/
theorem promises_of_pause {receipt : Receipt} {server met : Server}
    {promise : List Entry → List Task → Prop} {handler : Handler (Except Rpc.Refusal Json)}
    (hpause : (Rpc.handle receipt.call).advance receipt.world server =
      handler.advance receipt.world met)
    (hpromise : ∀ entries started answer, handler.Yields entries started answer →
      promise entries started) :
    (receive receipt server).Promises promise := by
  let unheld : Activity := ⟨receipt.call, server, handler, [], []⟩
  have hunheld : unheld.Promises promise := hpromise
  have hreceive : receive receipt server = unheld.resumed receipt.world met := by
    simp only [receive, resumed, hpause, unheld]
  rw [hreceive]
  exact promises_resumed hunheld receipt.world met

/-- A step of an activity keeps its promises. -/
theorem Step.promises {activity next : Activity} {server after : Server} {recorded : List Entry}
    {promise : List Entry → List Task → Prop} (hstep : activity.Step server recorded after next)
    (hpromise : activity.Promises promise) : next.Promises promise := by
  cases hstep with
  | record hhandler =>
    -- What was still to be recorded begins with the entry that is recorded now.
    intro entries started answer hyields
    rw [List.append_assoc]
    exact hpromise _ _ answer (hhandler ▸ .record _ hyields)
  | announce hhandler =>
    intro entries started answer hyields
    exact hpromise _ _ answer (hhandler ▸ .announce _ hyields)
  | resume world => exact promises_resumed hpromise world server
  | compile hcompiles hcompile =>
    obtain ⟨htask⟩ := hcompile
    intro entries started answer hyields
    have hpromised := hpromise entries started answer hyields
    simp only [hcompiles, List.map_append, List.map_cons] at hpromised ⊢
    exact hpromised

/-- A handler that goes on starts compiles that can end in all their ways. -/
theorem faithful_resumed {activity : Activity}
    (hfaithful : ∀ compiling ∈ activity.compiles, compiling.Faithful) (world : World)
    (server : Server) :
    ∀ compiling ∈ (activity.resumed world server).compiles, compiling.Faithful := by
  intro compiling hmem
  rcases List.mem_append.mp hmem with hold | hnew
  · exact hfaithful compiling hold
  · obtain ⟨task, -, rfl⟩ := List.mem_map.mp hnew
    exact Compiling.faithful_start task

/-- A step of an activity keeps its compiles to the ways in which they could end. -/
theorem Step.faithful {activity next : Activity} {server after : Server} {recorded : List Entry}
    (hstep : activity.Step server recorded after next)
    (hfaithful : ∀ compiling ∈ activity.compiles, compiling.Faithful) :
    ∀ compiling ∈ next.compiles, compiling.Faithful := by
  cases hstep with
  | record | announce => exact hfaithful
  | resume world => exact faithful_resumed hfaithful world server
  | compile hcompiles hcompile =>
    rw [hcompiles, List.forall_mem_append, List.forall_mem_cons] at hfaithful
    obtain ⟨hearlier, hhere, hlater⟩ := hfaithful
    exact List.forall_mem_append.mpr
      ⟨hearlier, List.forall_mem_cons.mpr ⟨hcompile.faithful hhere, hlater⟩⟩

end Activity

/-- The server among its activities. -/
structure System where
  /-- The server. -/
  server : Server
  /-- What was reported so far. -/
  journal : Journal
  /-- The calls that were received, in order. -/
  activities : List Activity

namespace System

/-- The system before any call. -/
def idle (server : Server) : System := ⟨server, [], []⟩

/-- Nothing is left to do. -/
def Settled (system : System) : Prop :=
  ∀ activity ∈ system.activities, activity.Settled

/-- One step of the system: a call is received, or one of the activities takes a step. -/
inductive Step : System → System → Prop where
  | receive (system : System) (receipt : Receipt) :
      Step system ⟨((Rpc.handle receipt.call).advance receipt.world system.server).server,
        system.journal, system.activities ++ [.receive receipt system.server]⟩
  | act {server after : Server} {journal : Journal} {earlier later : List Activity}
      {activity next : Activity} {recorded : List Entry} :
      activity.Step server recorded after next →
        Step ⟨server, journal, earlier ++ activity :: later⟩
          ⟨after, journal ++ recorded, earlier ++ next :: later⟩

/-- The states of the system that steps lead to. -/
inductive Reachable (start : System) : System → Prop where
  | refl : Reachable start start
  | step {system next : System} : Reachable start system → system.Step next → Reachable start next

namespace Reachable

variable {server : Server} {system : System}

/-- What holds when a call is received and is kept by every step of an activity holds of all
activities. -/
theorem forall_activities {P : Activity → Prop}
    (hreceive : ∀ receipt server, P (.receive receipt server))
    (hstep : ∀ activity server recorded after next,
      Activity.Step activity server recorded after next → P activity → P next)
    (hreach : Reachable (idle server) system) : ∀ activity ∈ system.activities, P activity := by
  induction hreach with
  | refl => exact fun _ hmem => nomatch hmem
  | step _ hlast ih =>
    cases hlast with
    | receive receipt =>
      exact List.forall_mem_append.mpr ⟨ih, List.forall_mem_singleton.mpr (hreceive _ _)⟩
    | act hactivity =>
      rw [List.forall_mem_append, List.forall_mem_cons] at ih ⊢
      obtain ⟨hearlier, hhere, hlater⟩ := ih
      exact ⟨hearlier, hstep _ _ _ _ _ hactivity hhere, hlater⟩

/-- The journal holds what the activities have recorded, no more and no less. -/
theorem journal_perm (hreach : Reachable (idle server) system) :
    system.journal.Perm (system.activities.flatMap (·.recorded)) := by
  induction hreach with
  | refl => exact .refl _
  | step _ hlast ih =>
    cases hlast with
    | receive receipt =>
      rw [List.flatMap_append, List.flatMap_singleton, Activity.recorded_receive, List.append_nil]
      exact ih
    | @act _ _ journal earlier later activity next recorded hactivity =>
      -- The new entry is the last of the journal but stands inside the record of one activity.
      simp only [List.flatMap_append, List.flatMap_cons] at ih ⊢
      have hgrown := hactivity.recorded_perm.symm.append_right (later.flatMap (·.recorded))
      refine (ih.append_right recorded).trans (.trans ?_ (hgrown.append_left _))
      simp only [List.append_assoc]
      exact (List.perm_append_comm.append_left _).append_left _

end Reachable

/-! ## One message after the other -/

section Alone

variable {start : System} {server : Server} {journal : Journal} {others later : List Activity}

/-- Any activity may take the next step. -/
theorem Reachable.act {after : Server} {activity next : Activity} {recorded : List Entry}
    (hreach : Reachable start ⟨server, journal, others ++ activity :: later⟩)
    (hstep : activity.Step server recorded after next) :
    Reachable start ⟨after, journal ++ recorded, others ++ next :: later⟩ :=
  .step hreach (.act hstep)

/-- A handler may be left to itself until it answers. -/
theorem Reachable.run_handler {call : Rpc.Call} {origin : Server} {entries : List Entry}
    (compiles : List Compiling) (world : World) (handler : Handler (Except Rpc.Refusal Json))
    (hreach : Reachable start ⟨(handler.advance world server).server, journal,
      others ++ ⟨call, origin, (handler.advance world server).handler, entries,
        compiles ++ (handler.advance world server).started.map .start⟩ :: later⟩) :
    let handled := handler.run world server
    Reachable start ⟨handled.server, journal ++ handled.journal,
      others ++ ⟨call, origin, .answer handled.answer, entries ++ handled.journal,
        compiles ++ handled.started.map .start⟩ :: later⟩ := by
  -- Looking at the server or the world is no step of the system, so the hypothesis already speaks
  -- of the handler where it is held up, and each report is one step and one more to go on.
  induction handler generalizing server journal entries compiles with
  | answer value => simpa [Handled.journal, Handler.run, Handler.advance] using hreach
  | inspect rest ih => exact ih server compiles hreach
  | consult rest ih => exact ih world compiles hreach
  | change update rest ih => exact ih compiles hreach
  | record entry rest ih =>
    have hresumed := (hreach.act (.record rfl)).act (.resume world)
    have hrun := ih compiles (by
      simpa [Activity.resumed, Handler.advance] using hresumed)
    simpa [Handled.journal, Handler.run, Effect.entry?] using hrun
  | announce message rest ih =>
    have hresumed := (hreach.act (.announce rfl)).act (.resume world)
    have hrun := ih compiles (by
      simpa [Activity.resumed, Handler.advance] using hresumed)
    simpa [Handled.journal, Handler.run, Effect.entry?, List.filterMap_cons] using hrun
  | start task rest ih =>
    have hrun := ih (compiles ++ [.start task]) (by
      simpa [Handler.advance] using hreach)
    simpa [Handled.journal, Handler.run] using hrun

/-- A compile of the last activity may be left to itself until it ends. -/
theorem Reachable.run_compile {activity : Activity} {earlier later : List Compiling} {begun : Task}
    {entries : List Entry} (task : Task) (appended : Nat) (world : World)
    (hreach : Reachable start ⟨server, journal, others ++
      [{ activity with compiles := earlier ++ ⟨begun, task, entries⟩ :: later }]⟩) :
    let ended := task.run World.launch (fun _ => false) appended world
    ∃ result, Reachable start ⟨server, journal ++ ended.entries, others ++
      [{ activity with
          compiles :=
            earlier ++ ⟨begun, .finished result, entries ++ ended.entries⟩ :: later }]⟩ := by
  induction task generalizing journal entries appended world with
  | finished result => exact ⟨result, by simpa [Task.run] using hreach⟩
  | record entry rest ih =>
    have hrecorded := hreach.act (.compile rfl (.take (.record entry rest)))
    cases entry with
    | line text =>
      obtain ⟨result, hrest⟩ := ih (appended + 1) world hrecorded
      exact ⟨result, by simpa [Task.run] using hrest⟩
    | notification shown =>
      obtain ⟨result, hrest⟩ := ih appended world hrecorded
      exact ⟨result, by simpa [Task.run] using hrest⟩
  | launch invocation rest ih =>
    have hlaunched := hreach.act (.compile rfl
      (.take (.launch invocation rest (World.launch invocation world).1)))
    obtain ⟨result, hrest⟩ := ih _ appended (World.launch invocation world).2 (by
      simpa using hlaunched)
    exact ⟨result, by simpa [Task.run] using hrest⟩

/-- The compiles of the last activity may be left to themselves one after the other. -/
theorem Reachable.run_compiles (activity : Activity) (earlier : List Compiling) (tasks : List Task)
    (world : World)
    (hreach : Reachable start ⟨server, journal, others ++
      [{ activity with compiles := earlier ++ tasks.map .start }]⟩) :
    ∃ ended, (∀ compiling ∈ ended, compiling.Ended) ∧
      Reachable start ⟨server, journal ++ (completeAll world tasks).1, others ++
        [{ activity with compiles := earlier ++ ended }]⟩ := by
  induction tasks generalizing journal earlier world with
  | nil =>
    refine ⟨[], fun _ hmem => (nomatch hmem), ?_⟩
    simpa [completeAll] using hreach
  | cons task rest ih =>
    let ended := task.run World.launch (fun _ => false) 0 world
    -- On a log that does not fail nobody has to notice that a compile has died.
    have hdetached : task.detached World.launch (fun _ => false) world = ended := by
      obtain ⟨result, hresult, -⟩ := task.yields_run World.launch 0 world
      rw [Task.detached, hresult]
      rfl
    obtain ⟨result, hran⟩ := hreach.run_compile task 0 world
    let first : Compiling := ⟨task, .finished result, [] ++ ended.entries⟩
    obtain ⟨others, hothers, hrest⟩ := ih (earlier ++ [first]) ended.system (by
      simpa [first] using hran)
    refine ⟨first :: others, List.forall_mem_cons.mpr ⟨⟨result, rfl⟩, hothers⟩, ?_⟩
    simpa [completeAll, hdetached] using hrest

/-- Dealing with a message before the next one comes, as `Handler.perform` does, is one of the ways
in which the system can go on. -/
theorem Reachable.perform {system : System} (hreach : Reachable start system) (receipt : Receipt) :
    let performed := (Rpc.handle receipt.call).perform system.server receipt.world
    ∃ activity : Activity, activity.Settled ∧ activity.call = receipt.call ∧
      activity.origin = system.server ∧
      Reachable start ⟨performed.server,
        system.journal ++ performed.effects.filterMap Effect.entry?,
        system.activities ++ [activity]⟩ := by
  have hreceived := hreach.step (.receive system receipt)
  have hhandled := Reachable.run_handler [] receipt.world (Rpc.handle receipt.call)
    (by simpa [Activity.receive, Activity.resumed] using hreceived)
  let handled := (Rpc.handle receipt.call).run receipt.world system.server
  let activity : Activity :=
    ⟨receipt.call, system.server, .answer handled.answer, handled.journal, []⟩
  obtain ⟨ended, hended, hcompleted⟩ :=
    Reachable.run_compiles activity [] handled.started receipt.world (by simpa using hhandled)
  refine ⟨{ activity with compiles := ended }, ⟨⟨_, rfl⟩, hended⟩, rfl, rfl, ?_⟩
  have hjournal : ((Rpc.handle receipt.call).perform system.server receipt.world).effects.filterMap
      Effect.entry? = handled.journal ++ (completeAll receipt.world handled.started).1 := by
    rw [Handler.perform, List.filterMap_append, filterMap_entry?]
    rfl
  rw [hjournal, ← List.append_assoc]
  exact hcompleted

end Alone

end System

end EditorBridge
