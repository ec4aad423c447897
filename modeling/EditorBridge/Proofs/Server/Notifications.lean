import EditorBridge.Proofs.Documents.Store
import EditorBridge.Proofs.Server.Concurrency
import EditorBridge.Proofs.Server.Rejection

/-!
# One notification for every trigger

However the handlers and the compiles of a server run side by side, every compile command and every
save that is to compile shows exactly one notification in the end, and nothing else shows or logs
anything. A trigger that is refused shows its error before its handler returns.

## Main definitions

* `Handler.Silent`: handlers that record and start nothing.
* `Rpc.Call.isTrigger`: a call that is to lead to a compile, under the server that received it.
* `Promised`: what a call has recorded and started when its handler has answered.
* `Activity.Kept`: the invariant of an activity: its handler keeps the promise and its compiles end
  as they could when they were started.

## Main results

* `yields_compile`: how the compile command can end.
* `promises_receive`: every call keeps its promise, whatever happens while it is held up.
* `notifications_reachable`: the count over all runs.
-/

namespace EditorBridge

open Compile (Task)

namespace Handler

variable {α β : Type}

/-- A handler that records and starts nothing, whatever it meets. -/
def Silent (handler : Handler α) : Prop :=
  ∀ entries started value, handler.Yields entries started value → entries = [] ∧ started = []

theorem silent_pure (value : α) : (pure value : Handler α).Silent := by
  intro entries started result hyields
  obtain ⟨rfl, rfl, -⟩ := yields_pure_iff.mp hyields
  exact ⟨rfl, rfl⟩

theorem silent_bind {handler : Handler α} {next : α → Handler β} (hfirst : handler.Silent)
    (hnext : ∀ value, (next value).Silent) : (handler >>= next).Silent := by
  intro entries started result hyields
  obtain ⟨value, first, second, before, after, hvalue, hresult, rfl, rfl⟩ := hyields.of_bind
  obtain ⟨rfl, rfl⟩ := hfirst _ _ _ hvalue
  exact hnext value _ _ _ hresult

theorem silent_state (view : Server → α) : (state view).Silent := by
  intro entries started value hyields
  obtain ⟨rfl, rfl, -⟩ := yields_state_iff.mp hyields
  exact ⟨rfl, rfl⟩

theorem silent_outside (view : World → α) : (outside view).Silent := by
  intro entries started value hyields
  obtain ⟨rfl, rfl, -⟩ := yields_outside_iff.mp hyields
  exact ⟨rfl, rfl⟩

theorem silent_update (change : Server → Server) : (update change).Silent :=
  fun _ _ _ hyields => yields_update_iff.mp hyields

end Handler

namespace Server

open Handler

theorem silent_begin (root : Option Url) (options : Option Json) : (begin root options).Silent := by
  refine silent_bind (silent_outside _) fun file => silent_bind (silent_update _) fun _ => ?_
  cases options with
  | none => exact silent_update _
  | some options => exact silent_bind (silent_update _) fun _ => silent_update _

theorem silent_initialized : initialized.Silent := by
  intro entries started value hyields
  cases hyields with
  | announce _ hanswer => exact silent_pure _ _ _ _ hanswer

theorem silent_didChange (url : Url) (version : Int) (texts : List String) :
    (didChange url version texts).Silent := by
  refine silent_bind (silent_state _) fun isOpen => ?_
  cases isOpen with
  | false => exact silent_pure _
  | true =>
    cases texts with
    | nil => exact silent_pure _
    | cons text rest => exact silent_update _

theorem yields_react {reaction : Trigger.Reaction} {entries : List Entry} {started : List Task}
    (hyields : (react reaction).Yields entries started ()) :
    entries = reaction.parts.1 ∧ started = reaction.parts.2.toList := by
  obtain ⟨_, first, second, before, after, hreport, hlaunch, rfl, rfl⟩ := hyields.of_bind
  obtain ⟨rfl, rfl⟩ := yields_report_iff.mp hreport
  obtain ⟨rfl, rfl⟩ := yields_launch_iff.mp hlaunch
  exact ⟨List.append_nil _, rfl⟩

/-- However long the compile command is held up, it reports the notices for the server it met first,
and then reacts under the settings and in the world that it meets after them. -/
theorem yields_compile {arguments : List Json} {entries : List Entry} {started : List Task}
    (hyields : (compile arguments).Yields entries started ()) :
    ∃ (first later : Server) (world : World),
      let url := argumentUrl? arguments
      let reaction := Trigger.command (url.bind first.documents.source?) later.settings
        world.currentPath
      entries = url.elim [] first.notices ++ reaction.parts.1 ∧
        started = reaction.parts.2.toList := by
  obtain ⟨_, _, _, _, _, hview, hnoticed, rfl, rfl⟩ := hyields.of_bind
  obtain ⟨rfl, rfl, first, rfl⟩ := yields_state_iff.mp hview
  obtain ⟨_, _, _, _, _, hnotices, hset, rfl, rfl⟩ := hnoticed.of_bind
  obtain ⟨rfl, rfl⟩ := yields_report_iff.mp hnotices
  obtain ⟨_, _, _, _, _, hsettings, hplaced, rfl, rfl⟩ := hset.of_bind
  obtain ⟨rfl, rfl, later, rfl⟩ := yields_state_iff.mp hsettings
  obtain ⟨_, _, _, _, _, hcurrent, hreact, rfl, rfl⟩ := hplaced.of_bind
  obtain ⟨rfl, rfl, world, rfl⟩ := yields_outside_iff.mp hcurrent
  obtain ⟨rfl, rfl⟩ := yields_react hreact
  exact ⟨first, later, world, rfl, rfl⟩

end Server

/-! ## What a call promises -/

open Handler

/-- A call that is to lead to a compile: the compile command with any arguments, and the saving of a
local Z document while saving is to compile. -/
def Rpc.Call.isTrigger (server : Server) : Rpc.Call → Bool
  | .executeCommand command _ => command == Server.compileCommand
  | .didSave url _ =>
    (server.documents.source? url).any (·.isZ) && server.settings.autoCompileOnSave
  | _ => false

/-- What a call has recorded and started when its handler has answered: a trigger has shown one
error, or has shown nothing and started the compile of one request; any other call has recorded and
started nothing. -/
def Promised (isTrigger : Bool) (entries : List Entry) (started : List Task) : Prop :=
  if isTrigger then
    (started = [] ∧ ∃ message, Journal.notifications entries = [⟨.error, message⟩]) ∨
      ∃ request, started = [.dispatch request] ∧ Journal.notifications entries = []
  else entries = [] ∧ started = []

/-- The reaction to a compile command, behind lines of the log, is what a trigger promises. -/
theorem promised_command (active : Option Source) (settings : Settings)
    (current : Except SystemError Path) {notices : List Entry}
    (hnotices : Journal.notifications notices = []) :
    let reaction := Trigger.command active settings current
    Promised true (notices ++ reaction.parts.1) reaction.parts.2.toList := by
  intro reaction
  rcases Trigger.command_cases active settings current with
    ⟨request, hreaction⟩ | ⟨cause, hreaction⟩
  · refine .inr ⟨request, ?_, ?_⟩
    · simp only [reaction, hreaction]
      rfl
    · simp only [reaction, hreaction, Trigger.Reaction.parts, List.append_nil, hnotices]
  · refine .inl ⟨?_, cause.message, ?_⟩
    · simp only [reaction, hreaction]
      rfl
    · simp [reaction, hreaction, Trigger.Reaction.parts, hnotices]

namespace Server

open Handler

/-- Whatever happens in between, a command keeps its promise. -/
theorem promised_executeCommand {command : String} {arguments : List Json} {entries : List Entry}
    {started : List Task} {answer : Except String Unit}
    (hyields : (executeCommand command arguments).Yields entries started answer) :
    Promised (command == compileCommand) entries started := by
  unfold executeCommand at hyields
  split at hyields
  · next hcommand =>
    obtain ⟨_, hcompile, -⟩ := hyields.of_map
    obtain ⟨first, later, world, rfl, rfl⟩ := yields_compile hcompile
    rw [hcommand, beq_self_eq_true]
    exact promised_command _ _ _ (notifications_notices first _)
  · next hcommand =>
    rw [beq_eq_false_iff_ne.mpr hcommand]
    exact silent_pure _ _ _ _ hyields

/-- A save is handled at once, up to the report of what it leads to under the settings and in the
world that it meets. -/
theorem advance_didSave (world : World) (server : Server) (url : Url) (text : Option String) :
    (Rpc.handle (.didSave url text)).advance world server =
      ((match server.documents.source? url with
        | some source => react (Trigger.saved source server.settings world.currentPath)
        | none => pure ()) >>= fun _ => pure (Except.ok Json.null)).advance world
          (server.mapDocuments (·.saved url text)) := by
  have hsource : (server.mapDocuments (·.saved url text)).documents.source? url =
      server.documents.source? url := server.documents.source?_saved url text
  simp only [Rpc.handle, didSave, bind_assoc, advance_update_bind, advance_state_bind, hsource]
  cases server.documents.source? url with
  | none => rfl
  | some source =>
    simp only [bind_assoc, advance_state_bind, advance_outside_bind]
    rfl

/-- A save keeps its promise. -/
theorem promised_didSave {source? : Option Source} {settings : Settings}
    {current : Except SystemError Path} {entries : List Entry} {started : List Task}
    (hyields : (match source? with
      | some source => react (Trigger.saved source settings current)
      | none => pure ()).Yields entries started ()) :
    Promised (source?.any (·.isZ) && settings.autoCompileOnSave) entries started := by
  cases source? with
  | none => exact silent_pure () _ _ _ hyields
  | some source =>
    obtain ⟨rfl, rfl⟩ := yields_react hyields
    rw [Trigger.saved_eq, Option.any_some]
    split
    · next htrigger =>
      rw [htrigger]
      exact promised_command (some source) settings current Journal.notifications_nil
    · next htrigger =>
      rw [Bool.eq_false_iff.mpr htrigger]
      exact ⟨rfl, rfl⟩

end Server

/-- Every call keeps its promise, whatever happens while it is held up. -/
theorem promises_receive (receipt : Receipt) (server : Server) :
    (Activity.receive receipt server).Promises (Promised (receipt.call.isTrigger server)) := by
  obtain ⟨call, world⟩ := receipt
  cases call with
  | begin root options =>
    exact Activity.promises_of_pause rfl
      (silent_bind (Server.silent_begin root options) fun _ => silent_pure _)
  | ready =>
    exact Activity.promises_of_pause rfl
      (silent_bind Server.silent_initialized fun _ => silent_pure _)
  | shutdown | leave | unsupported => exact Activity.promises_of_pause rfl (silent_pure _)
  | didOpen | didClose | didChangeConfiguration =>
    exact Activity.promises_of_pause rfl (silent_bind (silent_update _) fun _ => silent_pure _)
  | didChange url version texts =>
    exact Activity.promises_of_pause rfl
      (silent_bind (Server.silent_didChange url version texts) fun _ => silent_pure _)
  | hover =>
    exact Activity.promises_of_pause rfl (silent_bind (silent_state _) fun _ => silent_pure _)
  | didSave url text =>
    -- Whether a save is to compile is decided before its handler can be held up.
    refine Activity.promises_of_pause (Server.advance_didSave world server url text) ?_
    intro entries started answer hyields
    obtain ⟨_, _, _, _, _, hreact, hanswer, rfl, rfl⟩ := hyields.of_bind
    obtain ⟨rfl, rfl, -⟩ := yields_pure_iff.mp hanswer
    rw [List.append_nil, List.append_nil]
    exact Server.promised_didSave hreact
  | executeCommand command arguments =>
    -- A command may be held up before it looks at the settings, but it keeps its promise anyhow.
    refine Activity.promises_of_pause rfl ?_
    intro entries started answer hyields
    obtain ⟨result, first, second, before, after, hcommand, hanswer, rfl, rfl⟩ := hyields.of_bind
    obtain ⟨rfl, rfl⟩ : second = [] ∧ after = [] := by
      cases result <;> exact silent_pure _ _ _ _ hanswer
    rw [List.append_nil, List.append_nil]
    exact Server.promised_executeCommand hcommand

/-! ## The count over all runs -/

namespace Activity

/-- Whether the call is to lead to a compile. -/
def isTrigger (activity : Activity) : Bool :=
  activity.call.isTrigger activity.origin

/-- The activity keeps its promise, and its compiles end in the ways in which they could end when
they were started. -/
structure Kept (activity : Activity) : Prop where
  promises : activity.Promises (Promised activity.isTrigger)
  faithful : ∀ compiling ∈ activity.compiles, compiling.Faithful

theorem kept_receive (receipt : Receipt) (server : Server) : (receive receipt server).Kept where
  promises := promises_receive receipt server
  faithful := by
    refine faithful_resumed ?_ receipt.world server
    exact List.forall_mem_nil _

theorem Step.kept {activity next : Activity} {server after : Server} {recorded : List Entry}
    (hstep : activity.Step server recorded after next) (hkept : activity.Kept) : next.Kept where
  promises := by
    rw [isTrigger, hstep.call_origin_eq.1, hstep.call_origin_eq.2]
    exact hstep.promises hkept.promises
  faithful := hstep.faithful hkept.faithful

/-- When the handler of a call has answered, it has recorded and started what was promised. -/
theorem Kept.promised_of_returned {activity : Activity} (hkept : activity.Kept)
    (hreturned : activity.Returned) :
    Promised activity.isTrigger activity.entries (activity.compiles.map (·.begun)) := by
  obtain ⟨value, hvalue⟩ := hreturned
  have hpromised := hkept.promises [] [] value (hvalue ▸ .answer value)
  rwa [List.append_nil, List.append_nil] at hpromised

/-- A call that is no trigger has recorded nothing and started nothing, at any time. -/
theorem Kept.silent {activity : Activity} (hkept : activity.Kept)
    (htrigger : activity.isTrigger = false) :
    activity.recorded = [] ∧ activity.compiles = [] := by
  -- In some way its handler can end, and then it has recorded and started nothing.
  have hpromised := hkept.promises _ _ _
    (Handler.yields_run ⟨.empty, [], []⟩ activity.handler (.start {} none))
  rw [htrigger] at hpromised
  obtain ⟨hentries, hbegun⟩ := hpromised
  have hcompiles : activity.compiles = [] :=
    List.map_eq_nil_iff.mp (List.append_eq_nil_iff.mp hbegun).1
  refine ⟨?_, hcompiles⟩
  rw [recorded, (List.append_eq_nil_iff.mp hentries).1, hcompiles]
  rfl

/-- A trigger that was refused has shown its one error when its handler has answered. -/
theorem Kept.notifications_of_refused {activity : Activity} (hkept : activity.Kept)
    (htrigger : activity.isTrigger = true) (hreturned : activity.Returned)
    (hrefused : activity.compiles = []) :
    ∃ message, Journal.notifications activity.recorded = [⟨.error, message⟩] := by
  have hpromised := hkept.promised_of_returned hreturned
  rw [htrigger, hrefused] at hpromised
  obtain ⟨-, message, hmessage⟩ | ⟨request, hrequest, -⟩ := hpromised
  · exact ⟨message, by rw [recorded, hrefused, List.flatMap_nil, List.append_nil, hmessage]⟩
  · exact absurd hrequest.symm (List.cons_ne_nil _ _)

end Activity

/-- The compile of a request shows exactly one notification by its end. -/
theorem Compiling.Faithful.notifications_length {compiling : Compiling} {request : Compile.Request}
    (hfaithful : compiling.Faithful) (hbegun : compiling.begun = .dispatch request)
    (hended : compiling.Ended) : (Journal.notifications compiling.entries).length = 1 := by
  obtain ⟨result, hresult⟩ := hended
  have hyields := hfaithful [] result (hresult ▸ .finished result)
  rw [hbegun, List.append_nil] at hyields
  obtain ⟨outcome, -, hentries⟩ := Task.yields_dispatch_iff.mp hyields
  rw [hentries, Journal.notifications_line, Compile.notifications_report, List.length_singleton]

/-- A call for which nothing is left to do has shown one notification if it is a trigger, and none
otherwise. -/
theorem Activity.Kept.notifications_length {activity : Activity} (hkept : activity.Kept)
    (hsettled : activity.Settled) :
    (Journal.notifications activity.recorded).length = if activity.isTrigger then 1 else 0 := by
  obtain ⟨hreturned, hended⟩ := hsettled
  cases htrigger : activity.isTrigger with
  | false => rw [(hkept.silent htrigger).1]; rfl
  | true =>
    have hpromised := hkept.promised_of_returned hreturned
    rw [htrigger] at hpromised
    obtain ⟨hrefused, -⟩ | ⟨request, hrequest, hentries⟩ := hpromised
    · obtain ⟨message, hmessage⟩ := hkept.notifications_of_refused htrigger hreturned
        (List.map_eq_nil_iff.mp hrefused)
      rw [hmessage]
      rfl
    · obtain ⟨compiling, hcompiles, hbegun⟩ := List.map_eq_singleton_iff.mp hrequest
      have hmem : compiling ∈ activity.compiles := hcompiles ▸ List.mem_singleton_self compiling
      rw [recorded, hcompiles, List.flatMap_singleton, Journal.notifications_append, hentries,
        List.nil_append]
      exact (hkept.faithful compiling hmem).notifications_length hbegun (hended compiling hmem)

namespace System

variable {server : Server} {system : System}

theorem Reachable.kept (hreach : Reachable (idle server) system) :
    ∀ activity ∈ system.activities, activity.Kept :=
  hreach.forall_activities Activity.kept_receive fun _ _ _ _ _ => Activity.Step.kept

/-- One notification for each of the activities that is to show one. -/
theorem length_notifications_flatMap {activities : List Activity}
    (hone : ∀ activity ∈ activities,
      (Journal.notifications activity.recorded).length = if activity.isTrigger then 1 else 0) :
    (Journal.notifications (activities.flatMap (·.recorded))).length =
      activities.countP (·.isTrigger) := by
  induction activities with
  | nil => rfl
  | cons activity rest ih =>
    obtain ⟨hfirst, hrest⟩ := List.forall_mem_cons.mp hone
    rw [List.flatMap_cons, Journal.notifications_append, List.length_append, hfirst, ih hrest,
      List.countP_cons, Nat.add_comm]

/-- In every state of the system the journal holds what the calls have recorded, no more and no
less. Once nothing is left to do it shows exactly as many notifications as there were triggers: the
compile commands, and the saves of local Z documents while saving was to compile. A call that is no
trigger records nothing at all, a trigger that is refused has shown its one error when its handler
answers, and a trigger for which nothing is left to do has shown exactly one notification. -/
theorem notifications_reachable (hreach : Reachable (idle server) system) :
    system.journal.Perm (system.activities.flatMap (·.recorded)) ∧
    (system.Settled → system.journal.notifications.length =
      system.activities.countP (·.isTrigger)) ∧
    ∀ activity ∈ system.activities,
      (activity.isTrigger = false → activity.recorded = []) ∧
      (activity.isTrigger = true → activity.Returned → activity.compiles = [] →
        ∃ message, Journal.notifications activity.recorded = [⟨.error, message⟩]) ∧
      (activity.isTrigger = true → activity.Settled →
        (Journal.notifications activity.recorded).length = 1) := by
  refine ⟨hreach.journal_perm, fun hsettled => ?_, fun activity hmem => ?_⟩
  · have hcount := (hreach.journal_perm.filterMap Entry.notification?).length_eq
    rw [Journal.notifications, hcount]
    exact length_notifications_flatMap fun activity hmem =>
      (hreach.kept activity hmem).notifications_length (hsettled activity hmem)
  · have hkept := hreach.kept activity hmem
    refine ⟨fun htrigger => (hkept.silent htrigger).1, hkept.notifications_of_refused,
      fun htrigger hsettled => ?_⟩
    rw [hkept.notifications_length hsettled, htrigger]
    rfl

/-- A compile command without a document is refused, and the save of a Z document whose compiler
does not exist is compiled in vain: two notifications for two triggers. -/
theorem notifications_reachable_refused_and_failed :
    let url : Url := ⟨"file", some ⟨"", "", none⟩, .segments ["spec.z"], none, none⟩
    let overrides : Settings.Patch := { autoCompileOnSave := some true }
    ∃ system, Reachable (idle (.start overrides none)) system ∧ system.Settled ∧
      system.activities.map (·.call) =
        [.executeCommand Server.compileCommand [], .didSave url none] ∧
      system.journal = [
        .error "No active editor",
        .line "Compiling: /spec.z",
        .line "Error: Compiler not found: your_compiler (No such file or directory (os error 2))",
        .error ("Compilation failed: Compiler not found: your_compiler " ++
          "(No such file or directory (os error 2))")] ∧
      system.journal.notifications.length = system.activities.countP (·.isTrigger) := by
  intro url overrides
  let world : World := ⟨.empty, [], []⟩
  obtain ⟨command, hcommand, hcommandCall, -, hrefused⟩ :=
    (Reachable.refl : Reachable _ (idle (.start overrides none))).perform
      ⟨.executeCommand Server.compileCommand [], world⟩
  obtain ⟨save, hsave, hsaveCall, -, hcompiled⟩ := hrefused.perform ⟨.didSave url none, world⟩
  have hsettled : ∀ activity ∈ [command, save], activity.Settled := by
    simp [hcommand, hsave]
  refine ⟨_, hcompiled, hsettled, ?_, ?_, ?_⟩
  · simp [idle, hcommandCall, hsaveCall]
  · dsimp only
    decide +kernel
  · exact (notifications_reachable hcompiled).2.1 hsettled

end System

end EditorBridge
