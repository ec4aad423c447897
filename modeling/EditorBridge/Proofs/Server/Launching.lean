import EditorBridge.Proofs.Compile.Launching
import EditorBridge.Proofs.Server.Notifications

/-!
# What the server starts

A handler that is held up may go on with a server whose settings have changed. The compiles that it
starts then are started for the document that its call is about, as it was when the call was
received, and under the settings that are in force when it goes on. So every program that the server
starts is started as it should be for a document and for settings that were in force.

## Main definitions

* `Handler.StartsOnly`, `Handler.KeepsTo`: what a handler starts is allowed where it goes on.
* `Rpc.Call.source?`, `Rpc.Call.Starts`: the document that a call is about, and the compiles that
  it may start.
* `Activity.Traced`: the invariant of an activity: it keeps to what its call may start, and all that
  it has started was allowed at some moment of the run.

## Main results

* `startsOnly_handle`: no call starts anything but the compile of its document.
* `System.Reachable.traced`: the invariant holds in every run.
* `System.Reachable.fits`: every program that is started is started as it should be.
-/

namespace EditorBridge

open Compile (Invocation Outcome Task)

namespace Handler

variable {α β : Type} {allowed : Server → World → Task → Prop} {met server : Server} {world : World}

/-- Every compile that the handler starts is allowed for the server and the world with which the
handler went on before it started it. At first it goes on with the server `met`, of which it may
already have made another one. -/
def StartsOnly (allowed : Server → World → Task → Prop) :
    Handler α → Server → World → Server → Prop
  | .answer _, _, _, _ => True
  | .inspect rest, met, world, server => (rest server).StartsOnly allowed met world server
  | .consult rest, met, world, server => (rest world).StartsOnly allowed met world server
  | .change update rest, met, world, server => rest.StartsOnly allowed met world (update server)
  | .record _ rest, _, _, _ => ∀ met world, rest.StartsOnly allowed met world met
  | .announce _ rest, _, _, _ => ∀ met world, rest.StartsOnly allowed met world met
  | .start task rest, met, world, server =>
    allowed met world task ∧ rest.StartsOnly allowed met world server

/-- With whatever server and world the handler goes on, what it starts is allowed. -/
def KeepsTo (allowed : Server → World → Task → Prop) (handler : Handler α) : Prop :=
  ∀ met world, handler.StartsOnly allowed met world met

/-- What a handler starts until it is held up is allowed, and so is what it starts afterwards. -/
theorem StartsOnly.advance {handler : Handler α}
    (hstarts : handler.StartsOnly allowed met world server) :
    (∀ task ∈ (handler.advance world server).started, allowed met world task) ∧
      (handler.advance world server).handler.KeepsTo allowed := by
  induction handler generalizing server with
  | answer value => exact ⟨fun _ hmem => (nomatch hmem), fun _ _ => trivial⟩
  | inspect rest ih => exact ih server hstarts
  | consult rest ih => exact ih world hstarts
  | change update rest ih => exact ih hstarts
  | record entry rest ih | announce message rest ih =>
    -- Here the handler is held up: it has started nothing, and goes on with whatever it meets.
    exact ⟨fun _ hmem => (nomatch hmem), fun _ _ => hstarts⟩
  | start task rest ih =>
    obtain ⟨hrest, hkeeps⟩ := ih hstarts.2
    exact ⟨List.forall_mem_cons.mpr ⟨hstarts.1, hrest⟩, hkeeps⟩

/-- A handler that starts nothing starts nothing that is not allowed. -/
theorem startsOnly_of_silent {handler : Handler α} (hsilent : handler.Silent) :
    handler.StartsOnly allowed met world server := by
  induction handler generalizing met world server with
  | answer value => trivial
  | inspect rest ih =>
    exact ih server fun _ _ _ hyields => hsilent _ _ _ (.inspect server hyields)
  | consult rest ih =>
    exact ih world fun _ _ _ hyields => hsilent _ _ _ (.consult world hyields)
  | change update rest ih => exact ih fun _ _ _ hyields => hsilent _ _ _ (.change update hyields)
  | record entry rest ih =>
    -- In some way the rest can end, and then an entry has been recorded.
    exact nomatch (hsilent _ _ _ (.record entry (yields_run world rest server))).1
  | announce message rest ih =>
    exact fun met world => ih fun _ _ _ hyields => hsilent _ _ _ (.announce message hyields)
  | start task rest ih =>
    exact nomatch (hsilent _ _ _ (.start task (yields_run world rest server))).2

@[simp]
theorem startsOnly_update_bind {change : Server → Server} {next : Unit → Handler β} :
    (update change >>= next).StartsOnly allowed met world server ↔
      (next ()).StartsOnly allowed met world (change server) := Iff.rfl

@[simp]
theorem startsOnly_state_bind {view : Server → α} {next : α → Handler β} :
    (state view >>= next).StartsOnly allowed met world server ↔
      (next (view server)).StartsOnly allowed met world server := Iff.rfl

@[simp]
theorem startsOnly_outside_bind {view : World → α} {next : α → Handler β} :
    (outside view >>= next).StartsOnly allowed met world server ↔
      (next (view world)).StartsOnly allowed met world server := Iff.rfl

/-- A report starts nothing, whatever it is held up by. -/
theorem keepsTo_report_bind {entries : List Entry} {next : Unit → Handler β}
    (hkeeps : (next ()).KeepsTo allowed) : (report entries >>= next).KeepsTo allowed := by
  induction entries with
  | nil => exact hkeeps
  | cons entry entries ih => exact fun _ _ => ih

end Handler

namespace Server

open Handler

/-- A reaction starts nothing but the compile of its request. -/
theorem startsOnly_react_bind {β : Type} {allowed : Server → World → Task → Prop}
    {met server : Server} {world : World} {reaction : Trigger.Reaction} {next : Unit → Handler β}
    (hstart : ∀ request, reaction = .started request → allowed met world (.dispatch request))
    (hnext : ∀ met world server, (next ()).StartsOnly allowed met world server) :
    (react reaction >>= next).StartsOnly allowed met world server := by
  cases reaction with
  | ignored => exact hnext met world server
  | rejected notice => exact fun met world => hnext met world met
  | started request => exact ⟨hstart request rfl, hnext met world server⟩

/-- The compile command starts nothing but a compile of the document that was active when it was
received, under the settings that it finds when it goes on. -/
theorem startsOnly_compile_bind {β : Type} {allowed : Server → World → Task → Prop}
    {arguments : List Json} {server : Server} {world : World} {next : Unit → Handler β}
    (hstart : ∀ (met : Server) (world : World) request,
      Trigger.command ((argumentUrl? arguments).bind server.documents.source?) met.settings
        world.currentPath = .started request → allowed met world (.dispatch request))
    (hnext : ∀ met world server, (next ()).StartsOnly allowed met world server) :
    (compile arguments >>= next).StartsOnly allowed server world server := by
  simp only [compile, bind_assoc, startsOnly_state_bind]
  -- The notices may hold the handler up, but which document is active was looked up before them.
  refine keepsTo_report_bind (fun met world => ?_) server world
  simp only [startsOnly_state_bind, startsOnly_outside_bind]
  exact startsOnly_react_bind (hstart met world) hnext

end Server

/-! ## What a call starts -/

open Handler

/-- The document that a call may compile. -/
def Rpc.Call.source? (server : Server) : Rpc.Call → Option Source
  | .executeCommand _ arguments => (Server.argumentUrl? arguments).bind server.documents.source?
  | .didSave url _ => server.documents.source? url
  | _ => none

/-- A compile that a call may start when its handler goes on with the server `met`: that of the
document it was about when it was received, under the settings that are now in force. -/
def Rpc.Call.Starts (call : Rpc.Call) (origin met : Server) (world : World) (task : Task) : Prop :=
  ∃ request, Trigger.command (call.source? origin) met.settings world.currentPath =
    .started request ∧ task = .dispatch request

theorem startsOnly_didSave (server : Server) (world : World) (url : Url) (text : Option String) :
    (Rpc.handle (.didSave url text)).StartsOnly (Rpc.Call.Starts (.didSave url text) server) server
      world server := by
  have hsource : (server.mapDocuments (·.saved url text)).documents.source? url =
      server.documents.source? url := server.documents.source?_saved url text
  simp only [Rpc.handle, Server.didSave, bind_assoc, startsOnly_update_bind, startsOnly_state_bind,
    hsource]
  cases hdocument : server.documents.source? url with
  | none => trivial
  | some source =>
    simp only [bind_assoc, startsOnly_state_bind, startsOnly_outside_bind]
    refine Server.startsOnly_react_bind (fun request hreaction => ⟨request, ?_, rfl⟩)
      fun _ _ _ => trivial
    -- The save has changed the documents, but neither their places nor the settings.
    rw [Rpc.Call.source?, hdocument]
    exact Trigger.command_of_saved hreaction

theorem startsOnly_executeCommand (server : Server) (world : World) (command : String)
    (arguments : List Json) :
    (Rpc.handle (.executeCommand command arguments)).StartsOnly
      (Rpc.Call.Starts (.executeCommand command arguments) server) server world server := by
  by_cases hcommand : command = Server.compileCommand
  · simp only [Rpc.handle, Server.executeCommand, if_pos hcommand, map_eq_pure_bind, bind_assoc,
      pure_bind]
    exact Server.startsOnly_compile_bind (fun _ _ request hreaction => ⟨request, hreaction, rfl⟩)
      fun _ _ _ => trivial
  · simp only [Rpc.handle, Server.executeCommand, if_neg hcommand, pure_bind]
    trivial

/-- No call starts anything but the compile of its document. -/
theorem startsOnly_handle (receipt : Receipt) (server : Server) :
    (Rpc.handle receipt.call).StartsOnly (receipt.call.Starts server) server receipt.world
      server := by
  obtain ⟨call, world⟩ := receipt
  cases call with
  | begin root options =>
    exact startsOnly_of_silent
      (silent_bind (Server.silent_begin root options) fun _ => silent_pure _)
  | ready =>
    exact startsOnly_of_silent (silent_bind Server.silent_initialized fun _ => silent_pure _)
  | shutdown | leave | unsupported => exact startsOnly_of_silent (silent_pure _)
  | didOpen | didClose | didChangeConfiguration =>
    exact startsOnly_of_silent (silent_bind (silent_update _) fun _ => silent_pure _)
  | didChange url version texts =>
    exact startsOnly_of_silent
      (silent_bind (Server.silent_didChange url version texts) fun _ => silent_pure _)
  | hover => exact startsOnly_of_silent (silent_bind (silent_state _) fun _ => silent_pure _)
  | didSave url text => exact startsOnly_didSave server world url text
  | executeCommand command arguments =>
    exact startsOnly_executeCommand server world command arguments

/-! ## What was started in a run -/

namespace Compiling

/-- The compile can start no program but those it could start in the beginning. -/
def Confined (compiling : Compiling) : Prop :=
  ∀ invocation, compiling.task.Launches invocation → compiling.begun.Launches invocation

theorem confined_start (task : Task) : (start task).Confined :=
  fun _ hlaunches => hlaunches

theorem Step.confined {compiling next : Compiling} {recorded : List Entry}
    (hstep : compiling.Step recorded next) (hconfined : compiling.Confined) : next.Confined := by
  obtain ⟨htask⟩ := hstep
  exact fun invocation hlaunches => hconfined invocation (htask.launches hlaunches)

theorem Step.begun_eq {compiling next : Compiling} {recorded : List Entry}
    (hstep : compiling.Step recorded next) : next.begun = compiling.begun := by
  obtain ⟨-⟩ := hstep
  rfl

end Compiling

namespace Activity

variable {start system : System} {activity : Activity}

/-- On the way to a state of the system a call could start a compile. -/
def Started (start system : System) (activity : Activity) (task : Task) : Prop :=
  ∃ (past : System) (world : World), System.Reachable start past ∧
    System.Reachable past system ∧ activity.call.Starts activity.origin past.server world task

/-- Whatever happens, the activity starts only what its call may start, and so it was with all that
it has started. -/
structure Traced (start system : System) (activity : Activity) : Prop where
  keeps : activity.handler.KeepsTo (activity.call.Starts activity.origin)
  compiles : ∀ compiling ∈ activity.compiles,
    compiling.Confined ∧ activity.Started start system compiling.begun

/-- What was started before a step was started before the state that it leads to. -/
theorem Traced.mono {next : System} (htraced : activity.Traced start system)
    (hstep : system.Step next) : activity.Traced start next where
  keeps := htraced.keeps
  compiles := fun compiling hmem => by
    obtain ⟨hconfined, past, world, hpast, hthen, hstarts⟩ := htraced.compiles compiling hmem
    exact ⟨hconfined, past, world, hpast, hthen.step hstep, hstarts⟩

/-- A handler that goes on starts its compiles under the server and in the world that it meets. -/
theorem traced_resumed {world : World} (hreach : System.Reachable start system)
    (hstarts : activity.handler.StartsOnly (activity.call.Starts activity.origin) system.server
      world system.server)
    (hcompiles : ∀ compiling ∈ activity.compiles,
      compiling.Confined ∧ activity.Started start system compiling.begun) :
    (activity.resumed world system.server).Traced start system where
  keeps := hstarts.advance.2
  compiles := fun compiling hmem => by
    rcases List.mem_append.mp hmem with hold | hnew
    · exact hcompiles compiling hold
    · obtain ⟨task, htask, rfl⟩ := List.mem_map.mp hnew
      exact ⟨Compiling.confined_start task, system, world, hreach, .refl,
        hstarts.advance.1 task htask⟩

theorem traced_receive (hreach : System.Reachable start system) (receipt : Receipt) :
    (receive receipt system.server).Traced start system :=
  traced_resumed hreach (startsOnly_handle receipt system.server) (List.forall_mem_nil _)

theorem Step.traced {next : Activity} {after : Server} {recorded : List Entry}
    (hreach : System.Reachable start system)
    (hstep : activity.Step system.server recorded after next)
    (htraced : activity.Traced start system) : next.Traced start system := by
  obtain ⟨hkeeps, hcompiles⟩ := htraced
  cases hstep with
  | @record entry rest hhandler | @announce message rest hhandler =>
    -- Behind a report a handler has to start only what is allowed wherever it goes on.
    rw [hhandler] at hkeeps
    exact ⟨hkeeps system.server ⟨.empty, [], []⟩, hcompiles⟩
  | resume world => exact traced_resumed hreach (hkeeps system.server world) hcompiles
  | compile hall hcompile =>
    -- A step of one compile leaves the handler and the other compiles as they are.
    refine ⟨hkeeps, ?_⟩
    rw [hall, List.forall_mem_append, List.forall_mem_cons] at hcompiles
    obtain ⟨hearlier, ⟨hconfined, hstarted⟩, hlater⟩ := hcompiles
    exact List.forall_mem_append.mpr ⟨hearlier, List.forall_mem_cons.mpr
      ⟨⟨hcompile.confined hconfined, hcompile.begun_eq ▸ hstarted⟩, hlater⟩⟩

end Activity

namespace System

variable {server : Server} {system : System}

/-- All that the calls start in a run was theirs to start at some moment of it. -/
theorem Reachable.traced (hreach : Reachable (idle server) system) :
    ∀ activity ∈ system.activities, activity.Traced (idle server) system := by
  induction hreach with
  | refl => exact fun _ hmem => nomatch hmem
  | step hbefore hlast ih =>
    have hmono : ∀ activity : Activity, activity.Traced (idle server) _ →
        activity.Traced (idle server) _ := fun _ htraced => htraced.mono hlast
    cases hlast with
    | receive _ receipt =>
      exact List.forall_mem_append.mpr ⟨fun activity hmem => hmono activity (ih activity hmem),
        List.forall_mem_singleton.mpr (hmono _ (Activity.traced_receive hbefore receipt))⟩
    | act hactivity =>
      rw [List.forall_mem_append, List.forall_mem_cons] at ih ⊢
      obtain ⟨hearlier, hhere, hlater⟩ := ih
      exact ⟨fun activity hmem => hmono activity (hearlier activity hmem),
        hmono _ (hactivity.traced hbefore hhere),
        fun activity hmem => hmono activity (hlater activity hmem)⟩

/-- A program that the server is about to start is started as it should be for the document of a
call, as it was when the call was received, under settings that were in force in the meantime. -/
theorem Reachable.fits (hreach : Reachable (idle server) system) {activity : Activity}
    (hactivity : activity ∈ system.activities) {compiling : Compiling}
    (hcompiling : compiling ∈ activity.compiles) {invocation : Invocation} {rest : Outcome → Task}
    (hlaunch : compiling.task = .launch invocation rest) :
    ∃ (source : Source) (past : System) (world : World),
      activity.call.source? activity.origin = some source ∧
      Reachable (idle server) past ∧ Reachable past system ∧
      invocation.Fits source past.server.settings world.currentPath := by
  obtain ⟨hconfined, past, world, hpast, hthen, request, hreaction, hbegun⟩ :=
    (hreach.traced activity hactivity).compiles compiling hcompiling
  obtain ⟨source, hsource, hfits⟩ :=
    Trigger.fits_of_started (fun _ => World.isAbsolute_of_currentPath) hreaction
  have hbegins : (Task.dispatch request).Launches invocation :=
    hbegun ▸ hconfined invocation (hlaunch ▸ .here invocation rest)
  rw [Compile.Task.launches_dispatch_iff.mp hbegins]
  exact ⟨source, past, world, hsource, hpast, hthen, hfits⟩

end System

end EditorBridge
