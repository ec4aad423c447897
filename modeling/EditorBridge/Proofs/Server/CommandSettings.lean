import EditorBridge.Proofs.Server.Notifications

/-!
# The settings of a compile command

The compile command looks up its document when it is received, but it looks at the settings only
after it has reported the notice about unsaved changes. Without a notice these are the settings that
were in force when it was received. With one, the handler may be held up by the report, and then the
command uses the settings that are in force when it goes on. A save looks at the settings first and
always uses those that were in force when it was received.

## Main definitions

* `Handler.Unchanging`: handlers that leave the server as it is.
* `Activity.Undecided`, `Activity.Decided`: a command before and after it has looked at the
  settings.
* `Activity.Follows`: the invariant of an activity: what the calls received since have made of the
  server, and under which settings a command has decided.
* `Activity.ReactsUnder`: what a command has recorded and started, for its document and settings.

## Main results

* `advance_handle`: a call changes the server when it is received, and never afterwards.
* `System.Reachable.follows`: the invariant holds in every run.
* `System.Reachable.reactsUnder`: which settings a command has used.
* `System.Reachable.save_reacts`: which settings a save has used.
* `System.exists_reactsUnder`: a command with a notice may use the settings that any calls lead to.
* `System.reactsUnder_origin_iff`: when a command is certain to use the settings that were in force
  when it was received.
-/

namespace EditorBridge

open Compile (Task)

/-! ## Handlers that leave the server as it is -/

namespace Handler

variable {α β : Type}

/-- The handler never changes the server. -/
def Unchanging : Handler α → Prop
  | .answer _ => True
  | .inspect rest => ∀ server, (rest server).Unchanging
  | .consult rest => ∀ world, (rest world).Unchanging
  | .change _ _ => False
  | .record _ rest | .announce _ rest | .start _ rest => rest.Unchanging

theorem unchanging_bind {handler : Handler α} {next : α → Handler β}
    (hfirst : handler.Unchanging) (hnext : ∀ value, (next value).Unchanging) :
    (handler >>= next).Unchanging := by
  change (handler.andThen next).Unchanging
  induction handler with
  | answer value => exact hnext value
  | inspect rest ih => exact fun server => ih server (hfirst server)
  | consult rest ih => exact fun world => ih world (hfirst world)
  | change update rest ih => exact hfirst.elim
  | record entry rest ih | announce message rest ih | start task rest ih => exact ih hfirst

@[simp]
theorem unchanging_state_bind {view : Server → α} {next : α → Handler β} :
    (state view >>= next).Unchanging ↔ ∀ server, (next (view server)).Unchanging := Iff.rfl

@[simp]
theorem unchanging_outside_bind {view : World → α} {next : α → Handler β} :
    (outside view >>= next).Unchanging ↔ ∀ world, (next (view world)).Unchanging := Iff.rfl

theorem unchanging_report (entries : List Entry) : (report entries).Unchanging := by
  induction entries with
  | nil => trivial
  | cons entry entries ih => exact ih

theorem unchanging_launch (task : Option Task) : (launch task).Unchanging := by
  cases task <;> trivial

/-- When a handler goes on that never changes the server, it leaves the server as it is. -/
theorem Unchanging.advance {handler : Handler α} (hunchanging : handler.Unchanging)
    (world : World) (server : Server) :
    (handler.advance world server).server = server ∧
      (handler.advance world server).handler.Unchanging := by
  induction handler with
  | answer | record | announce => exact ⟨rfl, hunchanging⟩
  | inspect rest ih => exact ih server (hunchanging server)
  | consult rest ih => exact ih world (hunchanging world)
  | change update rest ih => exact hunchanging.elim
  | start task rest ih => exact ih hunchanging

/-- A report that is not empty holds the handler up at once. -/
theorem advance_report_bind {entries : List Entry} (hentries : entries ≠ []) (world : World)
    (server : Server) (next : Unit → Handler β) :
    (report entries >>= next).advance world server = ⟨report entries >>= next, server, []⟩ := by
  obtain ⟨entry, rest, rfl⟩ := List.exists_cons_of_ne_nil hentries
  rfl

end Handler

namespace Server

open Handler

theorem unchanging_react (reaction : Trigger.Reaction) : (react reaction).Unchanging :=
  unchanging_bind (unchanging_report _) fun _ => unchanging_launch _

/-- The document that the arguments of the compile command name. -/
def active? (server : Server) (arguments : List Json) : Option Source :=
  (argumentUrl? arguments).bind server.documents.source?

/-- The notices that the compile command reports before it looks at the settings. -/
def commandNotices (server : Server) (arguments : List Json) : List Entry :=
  (argumentUrl? arguments).elim [] server.notices

/-- Documents have absolute paths, so what the command comes to depends on no current directory. -/
theorem command_active? (server : Server) (arguments : List Json) (settings : Settings)
    (first second : Except SystemError Path) :
    Trigger.command (server.active? arguments) settings first =
      Trigger.command (server.active? arguments) settings second := by
  have hcompile : Trigger.compile (server.active? arguments) settings first =
      Trigger.compile (server.active? arguments) settings second := by
    cases hactive : server.active? arguments with
    | none => rw [Trigger.compile_none, Trigger.compile_none]
    | some source =>
      obtain ⟨url, -, hsource⟩ := Option.bind_eq_some_iff.mp hactive
      have habsolute := Documents.isAbsolute_of_source? hsource
      simp only [Trigger.compile_some, Compile.Request.make_eq, Path.absolute, if_pos habsolute]
  rw [Trigger.command, hcompile, Trigger.command]

/-- What the compile command has still to do after its notices. -/
def undecided (active : Option Source) : Handler (Except Rpc.Refusal Json) := do
  let settings ← Handler.state (·.settings)
  let current ← Handler.outside (·.currentPath)
  react (Trigger.command active settings current)
  return .ok .null

theorem unchanging_undecided (active : Option Source) : (undecided active).Unchanging := by
  simp only [undecided, unchanging_state_bind, unchanging_outside_bind]
  exact fun _ _ => unchanging_bind (unchanging_react _) fun _ => trivial

/-- The compile command looks up its document, reports the notices about it, and only then looks at
the settings. -/
theorem handle_compileCommand (arguments : List Json) :
    Rpc.handle (.executeCommand compileCommand arguments) =
      (state (fun server => (server.active? arguments, server.commandNotices arguments)) >>=
        fun found => report found.2 >>= fun _ => undecided found.1) := by
  simp only [Rpc.handle, executeCommand, if_true, compile, active?, commandNotices, undecided,
    map_eq_pure_bind, bind_assoc, pure_bind]

/-- What the compile command has still to do when it is received. -/
def commandRest (server : Server) (arguments : List Json) : Handler (Except Rpc.Refusal Json) :=
  report (server.commandNotices arguments) >>= fun _ => undecided (server.active? arguments)

theorem advance_compileCommand (world : World) (server : Server) (arguments : List Json) :
    (Rpc.handle (.executeCommand compileCommand arguments)).advance world server =
      (server.commandRest arguments).advance world server := by
  rw [handle_compileCommand, advance_state_bind, commandRest]

/-- Left to itself, the command reports its notices and reacts to its document under the settings
that it meets. -/
theorem run_commandRest (world : World) (server met : Server) (arguments : List Json) :
    let reaction := Trigger.command (server.active? arguments) met.settings world.currentPath
    (server.commandRest arguments).run world met =
      ⟨.ok .null, met, (server.commandNotices arguments ++ reaction.parts.1).map .entry,
        reaction.parts.2.toList⟩ := by
  simp [commandRest, undecided]

/-- A call changes the server when it is received, and never after its handler was held up. -/
theorem advance_handle (receipt : Receipt) (server : Server) :
    let pause := (Rpc.handle receipt.call).advance receipt.world server
    pause.server = server.received receipt ∧ pause.handler.Unchanging := by
  obtain ⟨call, world⟩ := receipt
  cases call with
  | begin root options => cases options <;> exact ⟨rfl, trivial⟩
  | didChange url version texts =>
    simp only [Rpc.handle, didChange, bind_assoc, advance_state_bind, received_didChange]
    cases server.documents.isOpen url <;> cases texts.head? <;> exact ⟨rfl, trivial⟩
  | didSave url text =>
    rw [received_didSave, advance_didSave]
    refine Unchanging.advance ?_ world _
    refine unchanging_bind ?_ fun _ => trivial
    split
    · exact unchanging_react _
    · trivial
  | executeCommand command arguments =>
    rw [received_executeCommand]
    refine Unchanging.advance ?_ world server
    by_cases hcommand : command = compileCommand
    · rw [hcommand, handle_compileCommand, unchanging_state_bind]
      exact fun _ => unchanging_bind (unchanging_report _) fun _ => unchanging_undecided _
    · simp only [Rpc.handle, executeCommand, if_neg hcommand, pure_bind]
      trivial
  | didOpen | didClose | didChangeConfiguration | hover | ready | shutdown | leave | unsupported =>
    exact ⟨rfl, trivial⟩

end Server

/-! ## How the command comes to its decision -/

namespace Activity

open Handler

variable {activity next : Activity} {server after : Server} {recorded notices : List Entry}
  {active : Option Source} {settings : Settings}

/-- The command has recorded some of its notices, and has not looked at the settings. -/
def Undecided (notices : List Entry) (active : Option Source) (activity : Activity) : Prop :=
  activity.compiles = [] ∧ ∃ rest, activity.entries ++ rest = notices ∧
    activity.handler = (report rest >>= fun _ => Server.undecided active)

/-- The command has looked at the settings: however its handler still ends, by then it has reacted
to its document under them. -/
def Decided (notices : List Entry) (active : Option Source) (settings : Settings)
    (activity : Activity) : Prop :=
  ∃ world : World, activity.Promises fun entries started =>
    let reaction := Trigger.command active settings world.currentPath
    entries = notices ++ reaction.parts.1 ∧ started = reaction.parts.2.toList

/-- A command that has recorded all of its notices decides when it goes on. -/
theorem decided_resumed (hcompiles : activity.compiles = []) (hentries : activity.entries = notices)
    (hhandler : activity.handler = Server.undecided active) (world : World) (server : Server) :
    (activity.resumed world server).Decided notices active server.settings := by
  -- Looking at the settings is no step of the system, so this is a handler that reacts already.
  let reaction := Trigger.command active server.settings world.currentPath
  let reacting : Activity :=
    { activity with handler := Server.react reaction >>= fun _ => pure (.ok .null) }
  have hresumed : activity.resumed world server = reacting.resumed world server := by
    simp only [resumed, hhandler, Server.undecided, advance_state_bind, advance_outside_bind,
      reacting, reaction]
  refine ⟨world, hresumed ▸ promises_resumed ?_ world server⟩
  intro entries started answer hyields
  obtain ⟨_, _, _, _, _, hreact, hanswer, rfl, rfl⟩ := hyields.of_bind
  obtain ⟨rfl, rfl⟩ := Server.yields_react hreact
  obtain ⟨rfl, rfl, -⟩ := yields_pure_iff.mp hanswer
  simp [reacting, reaction, hcompiles, hentries]

/-- A handler that is held up at once does nothing when it goes on. -/
theorem resumed_eq_self {world : World}
    (hheld : activity.handler.advance world server = ⟨activity.handler, server, []⟩) :
    activity.resumed world server = activity := by
  simp only [resumed, hheld, List.map_nil, List.append_nil]

/-- A step of a command leaves it undecided, or it decides under the settings now in force. -/
theorem Undecided.step (hundecided : activity.Undecided notices active)
    (hstep : activity.Step server recorded after next) :
    next.Undecided notices active ∨ next.Decided notices active server.settings := by
  obtain ⟨hcompiles, rest, hentries, hhandler⟩ := hundecided
  cases hstep with
  | record hrecord =>
    cases rest with
    | nil => exact nomatch hrecord.symm.trans hhandler
    | cons entry rest =>
      obtain ⟨rfl, rfl⟩ := Handler.record.inj (hrecord.symm.trans hhandler)
      exact .inl ⟨hcompiles, rest, by simpa using hentries, rfl⟩
  | announce hannounce => cases rest <;> exact nomatch hannounce.symm.trans hhandler
  | resume world =>
    cases rest with
    -- Nothing is left to report, so now the settings are looked at.
    | nil => exact .inr (decided_resumed hcompiles (by simpa using hentries) hhandler world server)
    | cons entry rest =>
      -- The next notice holds the handler up again.
      have hheld : activity.handler.advance world server = ⟨activity.handler, server, []⟩ := by
        rw [hhandler]
        exact advance_report_bind (List.cons_ne_nil entry rest) world server _
      rw [resumed_eq_self hheld]
      exact .inl ⟨hcompiles, entry :: rest, hentries, hhandler⟩
  | compile hall =>
    rw [hcompiles] at hall
    exact absurd hall.symm (by simp)

/-- A step of a command that has decided changes nothing about its decision. -/
theorem Decided.step (hdecided : activity.Decided notices active settings)
    (hstep : activity.Step server recorded after next) :
    next.Decided notices active settings := by
  obtain ⟨world, hpromise⟩ := hdecided
  exact ⟨world, hstep.promises hpromise⟩

/-- A command is received: without notices it decides at once. -/
theorem undecided_or_decided_receive (arguments : List Json) (world : World) (server : Server) :
    let notices := server.commandNotices arguments
    let active := server.active? arguments
    let activity := receive ⟨.executeCommand Server.compileCommand arguments, world⟩ server
    (notices ≠ [] ∧ activity.Undecided notices active) ∨
      activity.Decided notices active server.settings := by
  intro notices active activity
  let unheld : Activity := ⟨.executeCommand Server.compileCommand arguments, server,
    server.commandRest arguments, [], []⟩
  have hreceive : activity = unheld.resumed world server := by
    simp only [activity, receive, resumed, Server.advance_compileCommand, unheld]
  have hunheld : unheld.Undecided notices active := ⟨rfl, notices, rfl, rfl⟩
  by_cases hnotices : notices = []
  · refine .inr (hreceive ▸ decided_resumed rfl hnotices.symm ?_ world server)
    change server.commandRest arguments = _
    rw [Server.commandRest, show server.commandNotices arguments = [] from hnotices]
    rfl
  · rcases hunheld.step (.resume world) with hundecided | hdecided
    · exact .inl ⟨hnotices, hreceive ▸ hundecided⟩
    · exact .inr (hreceive ▸ hdecided)

/-- However the handler of a save still ends, by then it has reacted to its document under the
settings of the server that received it. -/
def SaveKept (activity : Activity) : Prop :=
  ∀ url text, activity.call = .didSave url text → ∃ world : World,
    activity.Promises fun entries started =>
      let reaction := (activity.origin.documents.source? url).elim .ignored
        (Trigger.saved · activity.origin.settings world.currentPath)
      entries = reaction.parts.1 ∧ started = reaction.parts.2.toList

theorem saveKept_receive (receipt : Receipt) (server : Server) :
    (receive receipt server).SaveKept := by
  obtain ⟨call, world⟩ := receipt
  intro url text hcall
  obtain rfl : call = .didSave url text := hcall
  refine ⟨world, promises_of_pause (Server.advance_didSave world server url text) ?_⟩
  intro entries started answer hyields
  obtain ⟨_, _, _, _, _, hreact, hanswer, rfl, rfl⟩ := hyields.of_bind
  obtain ⟨rfl, rfl, -⟩ := yields_pure_iff.mp hanswer
  simp only [receive, resumed, List.append_nil]
  cases hsource : server.documents.source? url with
  | none =>
    rw [hsource] at hreact
    exact silent_pure () _ _ _ hreact
  | some source =>
    rw [hsource] at hreact
    exact Server.yields_react hreact

theorem Step.saveKept (hstep : activity.Step server recorded after next)
    (hkept : activity.SaveKept) : next.SaveKept := by
  intro url text hcall
  rw [hstep.call_origin_eq.2]
  obtain ⟨world, hpromise⟩ := hkept url text (hstep.call_origin_eq.1 ▸ hcall)
  exact ⟨world, hstep.promises hpromise⟩

/-- The calls received since a call are all that has changed the server since, and a command has
decided under the settings after some of them, or not at all. Without notices it has decided before
all of them. -/
structure Follows (activity : Activity) (since : List Receipt) (now : Server) : Prop where
  unchanging : activity.handler.Unchanging
  now_eq : now = activity.origin.after since
  decided : ∀ arguments, activity.call = .executeCommand Server.compileCommand arguments →
    let notices := activity.origin.commandNotices arguments
    let active := activity.origin.active? arguments
    (notices ≠ [] ∧ activity.Undecided notices active) ∨
      ∃ seen, seen <+: since ∧ (notices = [] → seen = []) ∧
        activity.Decided notices active (activity.origin.after seen).settings

/-- A command that has not decided has not returned. -/
theorem Undecided.not_returned (hundecided : activity.Undecided notices active) :
    ¬ activity.Returned := by
  rintro ⟨value, hvalue⟩
  obtain ⟨-, rest, -, hhandler⟩ := hundecided
  cases rest <;> exact nomatch hvalue.symm.trans hhandler

/-- The handler of a command has recorded and started what its document leads to under settings, in
whatever world. -/
def ReactsUnder (activity : Activity) (arguments : List Json) (settings : Settings) : Prop :=
  ∀ world : World,
    let reaction := Trigger.command (activity.origin.active? arguments) settings world.currentPath
    activity.entries = activity.origin.commandNotices arguments ++ reaction.parts.1 ∧
      activity.compiles.map (·.begun) = reaction.parts.2.toList

/-- A command that has decided and returned has reacted. -/
theorem Decided.reactsUnder {arguments : List Json}
    (hdecided : activity.Decided (activity.origin.commandNotices arguments)
      (activity.origin.active? arguments) settings) (hreturned : activity.Returned) :
    activity.ReactsUnder arguments settings := by
  obtain ⟨found, hpromise⟩ := hdecided
  obtain ⟨value, hvalue⟩ := hreturned
  intro world
  have hpromised := hpromise [] [] value (hvalue ▸ .answer value)
  rw [Server.command_active? _ _ _ world.currentPath found.currentPath]
  simpa using hpromised

theorem follows_receive (receipt : Receipt) (server : Server) :
    (receive receipt server).Follows [receipt] (server.received receipt) where
  unchanging := (Server.advance_handle receipt server).2
  now_eq := rfl
  decided arguments hcall := by
    obtain ⟨call, world⟩ := receipt
    obtain rfl : call = .executeCommand Server.compileCommand arguments := hcall
    exact (undecided_or_decided_receive arguments world server).imp_right fun hdecided =>
      ⟨[], List.nil_prefix, fun _ => rfl, hdecided⟩

/-- Another call was received. -/
theorem Follows.received {since : List Receipt} {now : Server}
    (hfollows : activity.Follows since now) (receipt : Receipt) :
    activity.Follows (since ++ [receipt]) (now.received receipt) where
  unchanging := hfollows.unchanging
  now_eq := by rw [hfollows.now_eq, Server.after_concat]
  decided arguments hcall :=
    (hfollows.decided arguments hcall).imp_right fun ⟨seen, hseen, hnone, hdecided⟩ =>
      ⟨seen, hseen.trans (List.prefix_append _ _), hnone, hdecided⟩

/-- Where the handler no longer changes the server, a step of the activity does not either. -/
theorem Step.server_eq (hunchanging : activity.handler.Unchanging)
    (hstep : activity.Step server recorded after next) :
    after = server ∧ next.handler.Unchanging := by
  cases hstep with
  | record hhandler | announce hhandler =>
    rw [hhandler] at hunchanging
    exact ⟨rfl, hunchanging⟩
  | resume world => exact hunchanging.advance world server
  | compile => exact ⟨rfl, hunchanging⟩

/-- The activity itself took a step. -/
theorem Follows.step {since : List Receipt} (hfollows : activity.Follows since server)
    (hstep : activity.Step server recorded after next) : next.Follows since server where
  unchanging := (hstep.server_eq hfollows.unchanging).2
  now_eq := by rw [hstep.call_origin_eq.2, hfollows.now_eq]
  decided arguments hcall := by
    rw [hstep.call_origin_eq.1] at hcall
    rw [hstep.call_origin_eq.2]
    rcases hfollows.decided arguments hcall with
      ⟨hnotices, hundecided⟩ | ⟨seen, hseen, hnone, hdecided⟩
    -- If it decides now, it has seen all that was received since.
    · refine (hundecided.step hstep).imp (⟨hnotices, ·⟩) fun hdecided => ?_
      exact ⟨since, List.prefix_rfl, fun hnone => absurd hnone hnotices,
        hfollows.now_eq ▸ hdecided⟩
    · exact .inr ⟨seen, hseen, hnone, hdecided.step hstep⟩

end Activity

namespace System

variable {server : Server} {system : System}

/-- In every run the server is what the calls have made of it so far, and all commands have decided
or will decide under the settings that some of these calls have led to. -/
theorem Reachable.follows (hreach : Reachable (idle server) system) :
    ∀ entry ∈ system.activities.zipIdx, ∃ since : List Receipt,
      since.map (·.call) = (system.activities.map (·.call)).drop entry.2 ∧
      entry.1.Follows since system.server := by
  induction hreach with
  | refl => exact fun _ hmem => nomatch hmem
  | @step past _ _ hlast ih =>
    cases hlast with
    | receive _ receipt =>
      rw [(Server.advance_handle receipt past.server).1]
      simp only [List.zipIdx_append, List.zipIdx_singleton, List.map_append, List.forall_mem_append,
        List.forall_mem_singleton, List.map_singleton, Nat.zero_add]
      refine ⟨fun entry hmem => ?_, [receipt], ?_, Activity.follows_receive receipt past.server⟩
      · obtain ⟨since, hsince, hfollows⟩ := ih entry hmem
        have hindex : entry.2 < past.activities.length := by
          simpa using List.snd_lt_of_mem_zipIdx hmem
        refine ⟨since ++ [receipt], ?_, hfollows.received receipt⟩
        rw [List.map_append, hsince,
          List.drop_append_of_le_length (by simpa using Nat.le_of_lt hindex)]
        rfl
      · rw [List.drop_append_of_le_length (by simp)]
        simp [Activity.receive, Activity.resumed]
    | @act server after journal earlier later activity next recorded hactivity =>
      -- The server stays as it is, so nothing changes for the others.
      simp only [List.zipIdx_append, List.zipIdx_cons, List.forall_mem_append, List.forall_mem_cons,
        List.map_append, List.map_cons] at ih ⊢
      obtain ⟨hearlier, ⟨since, hsince, hfollows⟩, hlater⟩ := ih
      rw [(hactivity.server_eq hfollows.unchanging).1, hactivity.call_origin_eq.1]
      exact ⟨hearlier, ⟨since, hsince, hfollows.step hactivity⟩, hlater⟩

/-- In every run, a save whose handler has returned has reacted to its document under the settings
of the server that received it: unlike the command it looks at them before it reports anything. -/
theorem Reachable.save_reacts (hreach : Reachable (idle server) system) {activity : Activity}
    (hmem : activity ∈ system.activities) {url : Url} {text : Option String}
    (hcall : activity.call = .didSave url text) (hreturned : activity.Returned) :
    ∃ world : World,
      let reaction := (activity.origin.documents.source? url).elim .ignored
        (Trigger.saved · activity.origin.settings world.currentPath)
      activity.entries = reaction.parts.1 ∧
        activity.compiles.map (·.begun) = reaction.parts.2.toList := by
  have hkept : activity.SaveKept :=
    hreach.forall_activities Activity.saveKept_receive (fun _ _ _ _ _ => Activity.Step.saveKept)
      activity hmem
  obtain ⟨world, hpromise⟩ := hkept url text hcall
  obtain ⟨value, hvalue⟩ := hreturned
  exact ⟨world, by simpa using hpromise [] [] value (hvalue ▸ .answer value)⟩

/-- Any calls may be received next, while all activities are held up. -/
theorem Reachable.receive_all {start : System} (hreach : Reachable start system)
    (receipts : List Receipt) :
    ∃ others, Reachable start
      ⟨system.server.after receipts, system.journal, system.activities ++ others⟩ := by
  induction receipts generalizing system with
  | nil => exact ⟨[], by simpa using hreach⟩
  | cons receipt rest ih =>
    have hreceived := hreach.step (.receive system receipt)
    rw [(Server.advance_handle receipt system.server).1] at hreceived
    obtain ⟨others, hothers⟩ := ih hreceived
    rw [List.append_assoc] at hothers
    exact ⟨_, hothers⟩

/-- A command that is held up by its notices may decide after any calls received since. -/
theorem exists_reactsUnder {arguments : List Json} (hnotices : server.commandNotices arguments ≠ [])
    (seen : List Receipt) :
    ∃ system activity, Reachable (idle server) system ∧ activity ∈ system.activities ∧
      activity.call = .executeCommand Server.compileCommand arguments ∧ activity.origin = server ∧
      activity.Returned ∧ activity.ReactsUnder arguments (server.after seen).settings := by
  let world : World := ⟨.empty, [], []⟩
  let receipt : Receipt := ⟨.executeCommand Server.compileCommand arguments, world⟩
  have hheld : ∀ met, (server.commandRest arguments).advance world met =
      ⟨server.commandRest arguments, met, []⟩ :=
    fun met => Handler.advance_report_bind hnotices world met _
  -- Where it is held up first, the command has done nothing yet.
  have hpause : (Rpc.handle receipt.call).advance receipt.world server =
      ⟨server.commandRest arguments, server, []⟩ :=
    (Server.advance_compileCommand world server arguments).trans (hheld server)
  have hreceived := (Reachable.refl : Reachable _ (idle server)).step (.receive _ receipt)
  obtain ⟨others, hothers⟩ := hreceived.receive_all seen
  let pause := (server.commandRest arguments).advance world (server.after seen)
  have hpaused : Reachable (idle server) ⟨pause.server, [],
      [] ++ ⟨receipt.call, server, pause.handler, [], [] ++ pause.started.map .start⟩ :: others⟩ := by
    simpa [pause, hheld, idle, Activity.receive, Activity.resumed, hpause] using hothers
  -- Now it goes on, with the server that the calls have led to.
  have hrun := Reachable.run_handler [] world (server.commandRest arguments) hpaused
  rw [Server.run_commandRest] at hrun
  refine ⟨_, _, hrun, List.mem_cons_self, rfl, rfl, ⟨_, rfl⟩, fun other => ?_⟩
  rw [Server.command_active? _ _ _ other.currentPath world.currentPath]
  constructor
  · exact filterMap_entry? _
  · simp [Compiling.start, Function.comp_def]

/-- In every run, a command whose handler has returned has reacted to its document as it was when
the command was received, under the settings that some of the calls received since have led to;
without notices, under the settings of the server that received it. -/
theorem Reachable.reactsUnder (hreach : Reachable (idle server) system) {activity : Activity}
    (hmem : activity ∈ system.activities) {arguments : List Json}
    (hcall : activity.call = .executeCommand Server.compileCommand arguments)
    (hreturned : activity.Returned) :
    ∃ (index : Nat) (since seen : List Receipt), system.activities[index]? = some activity ∧
      since.map (·.call) = (system.activities.map (·.call)).drop index ∧ seen <+: since ∧
      (activity.origin.commandNotices arguments = [] → seen = []) ∧
      activity.ReactsUnder arguments (activity.origin.after seen).settings := by
  obtain ⟨index, hindex⟩ := List.mem_iff_getElem?.mp hmem
  obtain ⟨since, hsince, hfollows⟩ :=
    hreach.follows (activity, index) (List.mem_zipIdx_iff_getElem?.mpr hindex)
  obtain ⟨-, hundecided⟩ | ⟨seen, hseen, hnone, hdecided⟩ := hfollows.decided arguments hcall
  · exact absurd hreturned hundecided.not_returned
  · exact ⟨index, since, seen, hindex, hsince, hseen, hnone, hdecided.reactsUnder hreturned⟩

/-- A compile command is certain to use the settings that were in force when it was received if
there are no notices before it, and otherwise exactly if no calls received since could lead to
settings under which its document is treated differently. -/
theorem reactsUnder_origin_iff (server : Server) (arguments : List Json) :
    (∀ (start : Server) (system : System), Reachable (idle start) system →
      ∀ activity ∈ system.activities,
        activity.call = .executeCommand Server.compileCommand arguments →
        activity.origin = server → activity.Returned →
        activity.ReactsUnder arguments server.settings) ↔
      server.commandNotices arguments = [] ∨ ∀ (seen : List Receipt) (world : World),
        let reaction := fun settings =>
          Trigger.command (server.active? arguments) settings world.currentPath
        (reaction (server.after seen).settings).parts = (reaction server.settings).parts := by
  constructor
  · intro hcertain
    refine or_iff_not_imp_left.mpr fun hnotices seen world => ?_
    obtain ⟨system, activity, hreach, hmem, hcall, horigin, hreturned, hlater⟩ :=
      exists_reactsUnder hnotices seen
    -- In that run the command has reacted under both settings.
    have hfirst := hcertain server system hreach activity hmem hcall horigin hreturned
    subst horigin
    have hentries := (hlater world).1.symm.trans (hfirst world).1
    have hstarted := (hlater world).2.symm.trans (hfirst world).2
    exact Prod.ext (List.append_cancel_left hentries) (by simpa using congrArg List.head? hstarted)
  · intro hsame start system hreach activity hmem hcall horigin hreturned
    obtain ⟨_, _, seen, -, -, -, hnone, hreacts⟩ := hreach.reactsUnder hmem hcall hreturned
    subst horigin
    rcases hsame with hnotices | hsame
    · rwa [hnone hnotices] at hreacts
    · intro world
      have hparts := hsame seen world
      have hthen := hreacts world
      dsimp only at hparts hthen ⊢
      rwa [hparts] at hthen

/-- The compile of a changed document is ordered under one compiler. While the notice about the
changes is being reported, the editor sets another one, and that one is started. -/
theorem exists_compile_under_later_settings :
    let url : Url := ⟨"file", some ⟨"", "", none⟩, .segments ["spec.z"], none, none⟩
    let world : World := ⟨.empty, [], []⟩
    let configured := fun name => (⟨.didChangeConfiguration
      (.ofFields [("compilerPath", .string name)]), world⟩ : Receipt)
    let server := (Server.start {} none).after [configured "first",
      ⟨.didOpen ⟨url, "z", 1, "old"⟩, world⟩, ⟨.didChange url 2 ["new"], world⟩]
    server.settings.compilerPath = "first" ∧
    ∃ (system : System) (activity : Activity) (request : Compile.Request),
      Reachable (idle server) system ∧ activity ∈ system.activities ∧
      activity.call = .executeCommand Server.compileCommand [.string "file:///spec.z"] ∧
      activity.origin = server ∧ activity.Returned ∧
      activity.compiles.map (·.begun) = [.dispatch request] ∧
      request.compilerCommand = "second" := by
  intro url world configured server
  let arguments : List Json := [.string "file:///spec.z"]
  have hnotices : server.commandNotices arguments ≠ [] := by decide +kernel
  obtain ⟨system, activity, hreach, hmem, hcall, horigin, hreturned, hreacts⟩ :=
    exists_reactsUnder hnotices [configured "second"]
  let request : Compile.Request := ⟨.ofText "/spec.z", .ofText "/", "second", []⟩
  have hreaction : Trigger.command (server.active? arguments)
      (server.after [configured "second"]).settings world.currentPath = .started request := by
    decide +kernel
  refine ⟨by decide +kernel, system, activity, request, hreach, hmem, hcall, horigin, hreturned,
    ?_, rfl⟩
  simp only [(hreacts world).2, horigin, hreaction, Trigger.Reaction.parts, Option.toList_some]

end System

end EditorBridge
