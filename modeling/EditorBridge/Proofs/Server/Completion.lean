import EditorBridge.Proofs.Server.Handling

/-!
# Handlers that are held up

A handler goes on by itself until it has to report something. There it may be held up, and when it
goes on it may meet another server and another world. This module says what a handler can have
reported and started when it has answered, whatever happened in between.

## Main definitions

* `Handler.advance`: a handler that goes on until it has to report something.
* `Handler.Yields`: what a handler can record and start by its end, and what it can answer.

## Main results

* `yields_run`: a handler that is run alone ends in one of the ways.
* `yields_of_advance`: going on leaves no more ways to end than there were.
* `Yields.of_bind`: handlers that are run one after the other end one after the other.
-/

namespace EditorBridge

open Compile (Task)

namespace Handler

variable {α β : Type}

/-- Where a handler is held up. -/
structure Pause (α : Type) where
  /-- What the handler has still to do. -/
  handler : Handler α
  /-- The server at that moment. -/
  server : Server
  /-- The compiles it has started since it went on. -/
  started : List Task

/-- Go on until something is to be reported, or to the answer. -/
def advance (world : World) : Handler α → Server → Pause α
  | .answer value, server => ⟨.answer value, server, []⟩
  | .inspect rest, server => (rest server).advance world server
  | .consult rest, server => (rest world).advance world server
  | .change update rest, server => rest.advance world (update server)
  | .record entry rest, server => ⟨.record entry rest, server, []⟩
  | .announce message rest, server => ⟨.announce message rest, server, []⟩
  | .start task rest, server =>
    let pause := rest.advance world server
    { pause with started := task :: pause.started }

/-- What follows two handlers follows the second of them. -/
theorem andThen_assoc {γ : Type} (handler : Handler α) (next : α → Handler β)
    (last : β → Handler γ) :
    (handler.andThen next).andThen last =
      handler.andThen fun value => (next value).andThen last := by
  induction handler with
  | answer value => rfl
  | inspect rest ih | consult rest ih => simp only [andThen, ih]
  | change update rest ih | record entry rest ih | announce message rest ih | start task rest ih =>
    simp only [andThen, ih]

/-- Nothing follows a handler whose answer is the answer. -/
theorem andThen_answer (handler : Handler α) : handler.andThen .answer = handler := by
  induction handler with
  | answer value => rfl
  | inspect rest ih | consult rest ih => simp only [andThen, ih]
  | change update rest ih | record entry rest ih | announce message rest ih | start task rest ih =>
    simp only [andThen, ih]

instance : LawfulMonad Handler :=
  .mk' Handler andThen_answer (fun _ _ => rfl) andThen_assoc

@[simp]
theorem advance_update_bind (world : World) (server : Server) (change : Server → Server)
    (next : Unit → Handler β) :
    (update change >>= next).advance world server =
      (next ()).advance world (change server) := rfl

@[simp]
theorem advance_state_bind (world : World) (server : Server) (view : Server → α)
    (next : α → Handler β) :
    (state view >>= next).advance world server = (next (view server)).advance world server := rfl

@[simp]
theorem advance_outside_bind (world : World) (server : Server) (view : World → α)
    (next : α → Handler β) :
    (outside view >>= next).advance world server = (next (view world)).advance world server := rfl

/-- What a handler can record and start until its end, and what it can answer, if it may meet any
server and any world at each of its steps. -/
inductive Yields : Handler α → List Entry → List Task → α → Prop where
  | answer (value : α) : Yields (.answer value) [] [] value
  | inspect {rest : Server → Handler α} {entries : List Entry} {started : List Task} {value : α}
      (server : Server) :
      Yields (rest server) entries started value → Yields (.inspect rest) entries started value
  | consult {rest : World → Handler α} {entries : List Entry} {started : List Task} {value : α}
      (world : World) :
      Yields (rest world) entries started value → Yields (.consult rest) entries started value
  | change {rest : Handler α} {entries : List Entry} {started : List Task} {value : α}
      (update : Server → Server) :
      Yields rest entries started value → Yields (.change update rest) entries started value
  | record {rest : Handler α} {entries : List Entry} {started : List Task} {value : α}
      (entry : Entry) :
      Yields rest entries started value →
        Yields (.record entry rest) (entry :: entries) started value
  | announce {rest : Handler α} {entries : List Entry} {started : List Task} {value : α}
      (message : String) :
      Yields rest entries started value → Yields (.announce message rest) entries started value
  | start {rest : Handler α} {entries : List Entry} {started : List Task} {value : α}
      (task : Task) :
      Yields rest entries started value → Yields (.start task rest) entries (task :: started) value

/-- A handler that is run alone ends in one of the ways. -/
theorem yields_run (world : World) (handler : Handler α) (server : Server) :
    let handled := handler.run world server
    handler.Yields handled.journal handled.started handled.answer := by
  induction handler generalizing server with
  | answer value => exact .answer value
  | inspect rest ih => exact .inspect server (ih server server)
  | consult rest ih => exact .consult world (ih world server)
  | change update rest ih => exact .change update (ih (update server))
  | record entry rest ih => exact .record entry (ih server)
  | announce message rest ih => exact .announce message (ih server)
  | start task rest ih => exact .start task (ih server)

/-- However a handler ends after it went on, so it could have ended before. -/
theorem yields_of_advance {world : World} {handler : Handler α} {server : Server}
    {entries : List Entry} {started : List Task} {value : α}
    (hyields : (handler.advance world server).handler.Yields entries started value) :
    handler.Yields entries ((handler.advance world server).started ++ started) value := by
  induction handler generalizing server with
  | answer | record | announce => exact hyields
  | inspect rest ih => exact .inspect server (ih server hyields)
  | consult rest ih => exact .consult world (ih world hyields)
  | change update rest ih => exact .change update (ih hyields)
  | start task rest ih => exact .start task (ih hyields)

/-! ### How the ways to end are put together -/

theorem yields_pure_iff {value result : α} {entries : List Entry} {started : List Task} :
    (pure value : Handler α).Yields entries started result ↔
      entries = [] ∧ started = [] ∧ result = value := by
  constructor
  · intro hyields
    cases hyields
    exact ⟨rfl, rfl, rfl⟩
  · rintro ⟨rfl, rfl, rfl⟩
    exact .answer result

theorem yields_done_iff {entries : List Entry} {started : List Task} :
    (pure () : Handler Unit).Yields entries started () ↔ entries = [] ∧ started = [] := by
  simp [yields_pure_iff]

/-- Handlers that are run one after the other end one after the other. -/
theorem Yields.of_bind {handler : Handler α} {next : α → Handler β} {entries : List Entry}
    {started : List Task} {result : β}
    (hyields : (handler >>= next).Yields entries started result) :
    ∃ value first second before after, handler.Yields first before value ∧
      (next value).Yields second after result ∧
      entries = first ++ second ∧ started = before ++ after := by
  -- The split is made where the first handler answers; until then both take the same steps.
  change (handler.andThen next).Yields entries started result at hyields
  induction handler generalizing entries started with
  | answer value =>
    exact ⟨value, [], entries, [], started, .answer value, hyields, rfl, rfl⟩
  | inspect rest ih =>
    cases hyields with
    | inspect server hrest =>
      obtain ⟨value, first, second, before, after, hfirst, hsecond⟩ := ih server hrest
      exact ⟨value, first, second, before, after, .inspect server hfirst, hsecond⟩
  | consult rest ih =>
    cases hyields with
    | consult world hrest =>
      obtain ⟨value, first, second, before, after, hfirst, hsecond⟩ := ih world hrest
      exact ⟨value, first, second, before, after, .consult world hfirst, hsecond⟩
  | change update rest ih =>
    cases hyields with
    | change _ hrest =>
      obtain ⟨value, first, second, before, after, hfirst, hsecond⟩ := ih hrest
      exact ⟨value, first, second, before, after, .change update hfirst, hsecond⟩
  | record entry rest ih =>
    cases hyields with
    | record _ hrest =>
      obtain ⟨value, first, second, before, after, hfirst, hsecond, rfl, rfl⟩ := ih hrest
      exact ⟨value, entry :: first, second, before, after, .record entry hfirst, hsecond, rfl, rfl⟩
  | announce message rest ih =>
    cases hyields with
    | announce _ hrest =>
      obtain ⟨value, first, second, before, after, hfirst, hsecond⟩ := ih hrest
      exact ⟨value, first, second, before, after, .announce message hfirst, hsecond⟩
  | start task rest ih =>
    cases hyields with
    | start _ hrest =>
      obtain ⟨value, first, second, before, after, hfirst, hsecond, rfl, rfl⟩ := ih hrest
      exact ⟨value, first, second, task :: before, after, .start task hfirst, hsecond, rfl, rfl⟩

/-- What a handler records and starts does not depend on what is made of its answer. -/
theorem Yields.of_map {handler : Handler α} {f : α → β} {entries : List Entry}
    {started : List Task} {result : β} (hyields : (f <$> handler).Yields entries started result) :
    ∃ value, handler.Yields entries started value ∧ result = f value := by
  change (handler >>= fun value => pure (f value)).Yields entries started result at hyields
  obtain ⟨value, _, _, _, _, hvalue, hresult, rfl, rfl⟩ := hyields.of_bind
  obtain ⟨rfl, rfl, rfl⟩ := yields_pure_iff.mp hresult
  exact ⟨value, by simpa using hvalue, rfl⟩

theorem yields_state_iff {view : Server → α} {entries : List Entry} {started : List Task}
    {value : α} :
    (state view).Yields entries started value ↔
      entries = [] ∧ started = [] ∧ ∃ server, value = view server := by
  constructor
  · intro hyields
    cases hyields with
    | inspect server hanswer =>
      cases hanswer
      exact ⟨rfl, rfl, server, rfl⟩
  · rintro ⟨rfl, rfl, server, rfl⟩
    exact .inspect server (.answer _)

theorem yields_outside_iff {view : World → α} {entries : List Entry} {started : List Task}
    {value : α} :
    (outside view).Yields entries started value ↔
      entries = [] ∧ started = [] ∧ ∃ world, value = view world := by
  constructor
  · intro hyields
    cases hyields with
    | consult world hanswer =>
      cases hanswer
      exact ⟨rfl, rfl, world, rfl⟩
  · rintro ⟨rfl, rfl, world, rfl⟩
    exact .consult world (.answer _)

theorem yields_update_iff {change : Server → Server} {entries : List Entry} {started : List Task} :
    (update change).Yields entries started () ↔ entries = [] ∧ started = [] := by
  constructor
  · intro hyields
    cases hyields with
    | change _ hanswer =>
      cases hanswer
      exact ⟨rfl, rfl⟩
  · rintro ⟨rfl, rfl⟩
    exact .change change (.answer ())

theorem yields_report_iff {reported entries : List Entry} {started : List Task} :
    (report reported).Yields entries started () ↔ entries = reported ∧ started = [] := by
  induction reported generalizing entries with
  | nil => exact yields_done_iff
  | cons entry reported ih =>
    constructor
    · intro hyields
      cases hyields with
      | record _ hrest =>
        obtain ⟨rfl, rfl⟩ := ih.mp hrest
        exact ⟨rfl, rfl⟩
    · rintro ⟨rfl, rfl⟩
      exact .record entry (ih.mpr ⟨rfl, rfl⟩)

theorem yields_launch_iff {task : Option Task} {entries : List Entry} {started : List Task} :
    (launch task).Yields entries started () ↔ entries = [] ∧ started = task.toList := by
  cases task with
  | none => exact yields_done_iff
  | some task =>
    constructor
    · intro hyields
      cases hyields with
      | start _ hanswer =>
        cases hanswer
        exact ⟨rfl, rfl⟩
    · rintro ⟨rfl, rfl⟩
      exact .start task (.answer ())

end Handler

end EditorBridge
