import EditorBridge.Proofs.Journal
import EditorBridge.Proofs.Server.Handling
import EditorBridge.Proofs.Trigger

/-!
# Refused compile commands

A compile command that starts nothing shows exactly one error. It is meant to leave the log as it
is, but the line about unsaved changes comes before the compiler's name is checked. This module says
exactly when a refused command leaves that line in the log.

## Main definitions

* `UnsavedWithoutCompiler`: the command names a Z document with unsaved changes, and the compiler's
  name is blank.

## Main results

* `Documents.isAbsolute_of_source?`: documents have absolute paths, so only the compiler can be
  missing.
* `notices_cases`: what is logged before the compile.
* `compileCommand_shape`: all that a compile command can do.
-/

namespace EditorBridge

open Compile (Request)

/-- A document that is stored in a file has an absolute path. -/
theorem Documents.isAbsolute_of_source? {documents : Documents} {url : Url} {source : Source}
    (hsource : documents.source? url = some source) : source.path.isAbsolute = true := by
  obtain ⟨path, hpath, rfl⟩ := Option.map_eq_some_iff.mp hsource
  exact Url.isAbsolute_filePath hpath

namespace Server

/-- A compile command names a Z document with unsaved changes, and the compiler's name is blank. -/
def UnsavedWithoutCompiler (server : Server) (arguments : List Json) : Prop :=
  ∃ url source, argumentUrl? arguments = some url ∧ server.documents.source? url = some source ∧
    source.isZ = true ∧ server.documents.isDirty url = true ∧
    Text.trim server.settings.compilerPath = ""

/-- Before the compile one line is logged for a Z document with unsaved changes, and nothing for
any other. -/
theorem notices_cases (server : Server) (named : Option Url) :
    (∃ url source, named = some url ∧ server.documents.source? url = some source ∧
      source.isZ = true ∧ server.documents.isDirty url = true ∧
      named.elim [] server.notices = [unsavedNotice source]) ∨
    ((∀ url source, named = some url → server.documents.source? url = some source →
      source.isZ = true → server.documents.isDirty url = false) ∧
      named.elim [] server.notices = []) := by
  cases named with
  | none => exact .inr ⟨fun url source hnamed => (nomatch hnamed), rfl⟩
  | some url =>
    simp only [Option.elim, notices]
    cases hsource : server.documents.source? url with
    | none =>
      refine .inr ⟨fun url' source hnamed hsource' => ?_, rfl⟩
      obtain rfl := Option.some.inj hnamed
      exact nomatch hsource.symm.trans hsource'
    | some source =>
      cases hnotice : source.isZ && server.documents.isDirty url with
      | true =>
        obtain ⟨hz, hdirty⟩ := Bool.and_eq_true_iff.mp hnotice
        exact .inl ⟨url, source, rfl, hsource, hz, hdirty, by simp [hz, hdirty]⟩
      | false =>
        refine .inr ⟨fun url' source' hnamed hsource' hz => ?_, by simp [hnotice]⟩
        obtain rfl := Option.some.inj hnamed
        obtain rfl := Option.some.inj (hsource.symm.trans hsource')
        simpa [hz] using hnotice

/-- A line that is logged before the compile is about an active Z document. -/
theorem mem_lines_notices {server : Server} {named : Option Url} {line : String}
    (hline : line ∈ Journal.lines (named.elim [] server.notices)) :
    ∃ source, named.bind server.documents.source? = some source ∧
      .line line = unsavedNotice source := by
  rcases notices_cases server named with
    ⟨url, source, rfl, hsource, -, -, hnotices⟩ | ⟨-, hnotices⟩
  · rw [hnotices, unsavedNotice, Journal.lines_line, Journal.lines_nil, List.mem_singleton] at hline
    exact ⟨source, hsource, by rw [hline, unsavedNotice]⟩
  · simp [hnotices] at hline

/-- Nothing is shown before the compile. -/
theorem notifications_notices (server : Server) (named : Option Url) :
    Journal.notifications (named.elim [] server.notices) = [] := by
  rcases notices_cases server named with ⟨url, source, -, -, -, -, hnotices⟩ | ⟨-, hnotices⟩
  · rw [hnotices, unsavedNotice, Journal.notifications_line, Journal.notifications_nil]
  · rw [hnotices, Journal.notifications_nil]

/-- With unsaved changes and a blank compiler nothing is started. -/
theorem UnsavedWithoutCompiler.not_started {server : Server} {arguments : List Json}
    (hunsaved : server.UnsavedWithoutCompiler arguments) (current : Except SystemError Path)
    (request : Request) :
    Trigger.command ((argumentUrl? arguments).bind server.documents.source?) server.settings
      current ≠ .started request := by
  obtain ⟨url, source, hnamed, hsource, hz, -, hcompiler⟩ := hunsaved
  rw [hnamed, Option.bind_some, hsource]
  intro hstarted
  exact (Trigger.exists_started_iff hz (Documents.isAbsolute_of_source? hsource) _ _).mp
    ⟨request, hstarted⟩ hcompiler

/-- A refused command has logged a line exactly if there are unsaved changes and the compiler's name
is blank. -/
theorem lines_notices_of_rejected {server : Server} {arguments : List Json}
    {current : Except SystemError Path} {notice : Entry}
    (hrejected : Trigger.command ((argumentUrl? arguments).bind server.documents.source?)
      server.settings current = .rejected notice) :
    Journal.lines ((argumentUrl? arguments).elim [] server.notices) ≠ [] ↔
      server.UnsavedWithoutCompiler arguments := by
  rcases notices_cases server (argumentUrl? arguments) with
    ⟨url, source, hnamed, hsource, hz, hdirty, hnotices⟩ | ⟨hclean, hnotices⟩
  · rw [hnamed, Option.bind_some, hsource] at hrejected
    have hcompiler : Text.trim server.settings.compilerPath = "" := by
      refine Decidable.byContradiction fun hne => ?_
      obtain ⟨request, hstarted⟩ := (Trigger.exists_started_iff hz
        (Documents.isAbsolute_of_source? hsource) server.settings current).mpr hne
      exact nomatch hrejected.symm.trans hstarted
    rw [hnotices, unsavedNotice, Journal.lines_line]
    exact ⟨fun _ => ⟨url, source, hnamed, hsource, hz, hdirty, hcompiler⟩,
      fun _ => List.cons_ne_nil _ _⟩
  · rw [hnotices, Journal.lines_nil]
    refine ⟨fun hne => absurd rfl hne, ?_⟩
    rintro ⟨url, source, hnamed, hsource, hz, hdirty, -⟩
    rw [hclean url source hnamed hsource hz] at hdirty
    exact nomatch hdirty

/-- All that a compile command can do. It changes nothing, and either it is refused and shows
exactly one error, or it starts one compile and shows nothing yet. A refused command leaves a line
in the log exactly if it names a Z document with unsaved changes while the compiler's name is
blank; in all other cases a line is only logged about the document whose compile is started. -/
theorem compileCommand_shape (world : World) (server : Server) (arguments : List Json) :
    let handled := (executeCommand compileCommand arguments).run world server
    let lines := handled.journal.lines
    let notifications := handled.journal.notifications
    handled.answer = .ok () ∧ handled.server = server ∧
    handled.effects = handled.journal.map .entry ∧
    ((handled.started = [] ∧ ∃ message, notifications = [⟨.error, message⟩]) ∨
      ∃ request, handled.started = [.dispatch request] ∧ notifications = []) ∧
    (handled.started = [] ∧ lines ≠ [] ↔ server.UnsavedWithoutCompiler arguments) ∧
    ∀ line ∈ lines, ∃ source,
      (argumentUrl? arguments).bind server.documents.source? = some source ∧
      .line line = unsavedNotice source ∧
      (server.UnsavedWithoutCompiler arguments ∨
        ∃ request, handled.started = [.dispatch request] ∧
          source.path.absolute world.currentPath = .ok request.filePath) := by
  intro handled lines notifications
  let active := (argumentUrl? arguments).bind server.documents.source?
  let notices : Journal := (argumentUrl? arguments).elim [] server.notices
  have hrun : handled = ⟨.ok (), server,
      (notices ++ (Trigger.command active server.settings world.currentPath).parts.1).map .entry,
      (Trigger.command active server.settings world.currentPath).parts.2.toList⟩ :=
    run_executeCommand_compileCommand world server arguments
  have hjournal : handled.journal =
      notices ++ (Trigger.command active server.settings world.currentPath).parts.1 := by
    rw [hrun, Handled.journal, filterMap_entry?]
  have hnotices : notices.notifications = [] := notifications_notices server _
  refine ⟨by rw [hrun], by rw [hrun], by rw [hjournal, hrun], ?_⟩
  obtain ⟨request, hstarted⟩ | ⟨cause, hrejected⟩ :=
    Trigger.command_cases active server.settings world.currentPath
  -- A compile is started, so the compiler has a name and the notices are about its document.
  · have htask : handled.started = [.dispatch request] := by rw [hrun, hstarted]; rfl
    have hwhole : handled.journal = notices := by
      rw [hjournal, hstarted]
      exact List.append_nil notices
    have hlines : lines = notices.lines := congrArg Journal.lines hwhole
    refine ⟨.inr ⟨request, htask, ?_⟩, ⟨fun h => ?_, fun hunsaved => ?_⟩, fun line hline => ?_⟩
    · exact (congrArg Journal.notifications hwhole).trans hnotices
    · exact absurd (htask.symm.trans h.1) (List.cons_ne_nil _ _)
    · exact absurd hstarted (hunsaved.not_started _ request)
    · obtain ⟨source, hactive, htext⟩ := mem_lines_notices (hlines ▸ hline)
      obtain ⟨source', hsource', -, hmake⟩ := Trigger.command_eq_started_iff.mp hstarted
      obtain rfl := Option.some.inj (hactive.symm.trans hsource')
      obtain ⟨-, -, filePath, hfile, rfl⟩ := Request.make_eq_ok_iff.mp hmake
      exact ⟨source, hactive, htext, .inr ⟨_, htask, hfile⟩⟩
  -- Nothing is started, and the notices were logged before that was known.
  · have htask : handled.started = [] := by rw [hrun, hrejected]; rfl
    have hwhole : handled.journal = notices ++ [.error cause.message] := by
      rw [hjournal, hrejected]
      rfl
    have hlines : lines = notices.lines := by
      simp only [lines, hwhole, Journal.lines_append, Journal.lines_error, Journal.lines_nil,
        List.append_nil]
    have hiff : lines ≠ [] ↔ server.UnsavedWithoutCompiler arguments :=
      hlines ▸ lines_notices_of_rejected hrejected
    refine ⟨.inl ⟨htask, cause.message, ?_⟩, ⟨fun h => hiff.mp h.2, fun h => ⟨htask, hiff.mpr h⟩⟩,
      fun line hline => ?_⟩
    · simp only [notifications, hwhole, Journal.notifications_append, hnotices,
        Journal.notifications_error, Journal.notifications_nil, List.nil_append]
    · obtain ⟨source, hactive, htext⟩ := mem_lines_notices (hlines ▸ hline)
      exact ⟨source, hactive, htext, .inl (hiff.mp (List.ne_nil_of_mem hline))⟩

/-- A command that names a Z document with unsaved changes while the compiler's name is blank starts
nothing, and still says in the log that the saved file is compiled. -/
theorem refused_compile_logged :
    let url : Url := ⟨"file", some ⟨"", "", none⟩, .segments ["spec.z"], none, none⟩
    let world : World := ⟨.empty, [], []⟩
    let history : List Receipt := [
      ⟨.didChangeConfiguration (.ofFields [("compilerPath", .string "")]), world⟩,
      ⟨.didOpen ⟨url, "z", 1, "old"⟩, world⟩,
      ⟨.didChange url 2 ["new"], world⟩]
    let handled := (executeCommand compileCommand [.string "file:///spec.z"]).run world
      ((start {} none).after history)
    handled.started.length = 0 ∧ handled.journal = [
      .line "/spec.z has unsaved changes; compiling the saved file",
      .error "No compiler configured"] := by
  decide +kernel

end Server

end EditorBridge
