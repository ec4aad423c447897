import EditorBridge.Proofs.Server.Handling
import EditorBridge.Proofs.Settings.Layers
import EditorBridge.Proofs.Success
import Mathlib.Data.List.Induction

/-!
# Settings over whole histories

Which settings are in force after any history of calls, said by looking back through the history:
the command line first, then the value that the editor last pushed with success, then the settings
file, then the defaults.

## Main definitions

* `Receipt.pushed?`, `lastAccepted?`: the editor's values in a history, and the last one that was
  accepted.
* `Receipt.loaded?`, `lastLoaded?`: the settings files in a history, and the last one that was
  found.
* `Server.SettingsFollow`: the invariant that ties the layers of the server to the history.

## Main results

* `loadWorkspace_eq_findSome?`: a workspace's settings are those of the first of its four files
  that can be loaded.
* `settingsFollow_received`: one call keeps the invariant.
* `settings_after`: the settings in force, key by key, after any history.
-/

namespace EditorBridge

namespace Settings

/-- A file that can be read exists. -/
theorem hasEntry_of_load {world : World} {path : Path} {settings : Settings}
    (hload : load world path = .ok settings) :
    world.files.hasEntry world.current path = true := by
  unfold load FileSystem.readText FileSystem.read at hload
  obtain ⟨text, htext, -⟩ := bind_eq_ok_iff.mp hload
  obtain ⟨contents, hread, -⟩ := bind_eq_ok_iff.mp (mapError_eq_ok_iff.mp htext)
  split at hread
  · exact nomatch hread
  · next hnul =>
    obtain ⟨found, hresolve, -⟩ := bind_eq_ok_iff.mp hread
    rw [FileSystem.hasEntry, eq_false_of_ne_true hnul, hresolve]
    rfl

/-- The settings of a workspace are those of the first of its files that can be loaded. -/
theorem loadWorkspace_eq_findSome? (world : World) (root : Path) :
    loadWorkspace world root =
      workspaceNames.findSome? fun name => (load world (root.child (.ofText name))).toOption := by
  unfold loadWorkspace
  congr 1
  funext name
  cases hload : load world (root.child (.ofText name)) with
  | ok settings => rw [if_pos (hasEntry_of_load hload), hload]
  | error cause => simp [hload, Except.toOption]

end Settings

open Settings (Key acceptable editorValue?)

namespace Receipt

/-- The settings that an editor pushes by a call. -/
def pushed? (receipt : Receipt) : Option Json :=
  match receipt.call with
  | .begin _ options => options
  | .didChangeConfiguration pushed => some pushed
  | _ => none

/-- The settings file that a call finds: the first of the workspace's four files that can be
loaded. -/
def loaded? (receipt : Receipt) : Option Settings :=
  match receipt.call with
  | .begin root _ => (root.bind (·.filePath?)).bind fun root =>
      Settings.workspaceNames.findSome? fun name =>
        (Settings.load receipt.world (root.child (.ofText name))).toOption
  | _ => none

end Receipt

/-- The last value in a history that an editor pushed and that can be used. -/
def lastAccepted? : List Receipt → Option Json :=
  lastSaid? fun receipt => receipt.pushed?.filter acceptable

/-- The last settings file that was found in a history. -/
def lastLoaded? : List Receipt → Option Settings :=
  lastSaid? Receipt.loaded?

theorem lastAccepted?_concat (history : List Receipt) (receipt : Receipt) :
    lastAccepted? (history ++ [receipt]) =
      (receipt.pushed?.filter acceptable).or (lastAccepted? history) :=
  lastSaid?_concat _ history receipt

theorem lastLoaded?_concat (history : List Receipt) (receipt : Receipt) :
    lastLoaded? (history ++ [receipt]) = receipt.loaded?.or (lastLoaded? history) :=
  lastSaid?_concat _ history receipt

namespace Server

/-- A push replaces the editor's layer if its value can be used, and otherwise changes nothing. -/
theorem pushSettings_eq (server : Server) (pushed : Json) :
    server.pushSettings pushed =
      if acceptable pushed then
        { server with layers := { server.layers with editor := some pushed } }
      else server := by
  unfold pushSettings
  cases haccept : acceptable pushed with
  | true => rw [Settings.Layers.pushEditor_eq_ok _ haccept]; rfl
  | false =>
    obtain ⟨mismatch, hpush⟩ := Settings.Layers.pushEditor_eq_error server.layers haccept
    rw [hpush]
    rfl

/-- A settings file that is found replaces the one before, unless one was given up front. -/
theorem discover_eq (server : Server) (file : Option Settings) :
    server.discover file =
      { server with
        layers :=
          { server.layers with
            file := if server.pinned then server.layers.file
              else file.or server.layers.file } } := by
  obtain ⟨documents, layers, pinned, root⟩ := server
  cases pinned <;> cases file <;> simp [discover]

/-- The beginning of a session replaces the settings file if one is found and none was given before,
and the editor's layer if its options can be used. -/
theorem received_begin_eq (server : Server) (world : World) (root : Option Url)
    (options : Option Json) :
    server.received ⟨.begin root options, world⟩ =
      { server with
        root := root.bind (·.filePath?)
        layers :=
          { server.layers with
            file := if server.pinned then server.layers.file
              else (Receipt.loaded? ⟨.begin root options, world⟩).or server.layers.file
            editor := (options.filter acceptable).or server.layers.editor } } := by
  have hloaded : Receipt.loaded? ⟨.begin root options, world⟩ =
      (root.bind (·.filePath?)).bind (Settings.loadWorkspace world) := by
    rw [Receipt.loaded?, funext (Settings.loadWorkspace_eq_findSome? world)]
  simp only [received_begin, hloaded]
  generalize (root.bind (·.filePath?)).bind (Settings.loadWorkspace world) = file
  rw [discover_eq]
  cases options with
  | none => rfl
  | some pushed =>
    simp only [Option.elim, pushSettings_eq, Option.filter_some]
    split <;> rfl

/-- What one call does to the layers of settings. -/
theorem layers_received (server : Server) (receipt : Receipt) :
    (server.received receipt).layers =
      { file := if server.pinned then server.layers.file
          else receipt.loaded?.or server.layers.file
        editor := (receipt.pushed?.filter acceptable).or server.layers.editor
        overrides := server.layers.overrides } := by
  -- All calls but the first two say nothing about settings.
  have hsilent : server.layers =
      { file := if server.pinned then server.layers.file else none.or server.layers.file
        editor := (none : Option Json).or server.layers.editor
        overrides := server.layers.overrides } := by
    simp
  obtain ⟨call, world⟩ := receipt
  cases call with
  | begin root options => rw [received_begin_eq]; rfl
  | didChangeConfiguration pushed =>
    rw [received_didChangeConfiguration, pushSettings_eq, Receipt.pushed?, Option.filter_some]
    split <;> simp [Receipt.loaded?]
  | didOpen document => rw [received_didOpen]; exact hsilent
  | didChange url version texts => rw [received_didChange]; split <;> exact hsilent
  | didSave url text => rw [received_didSave]; exact hsilent
  | didClose url => rw [received_didClose]; exact hsilent
  | executeCommand command arguments => rw [received_executeCommand]; exact hsilent
  | ready | shutdown | leave | hover url line column | unsupported => exact hsilent

/-- Whether a settings file was given up front never changes. -/
theorem pinned_received (server : Server) (receipt : Receipt) :
    (server.received receipt).pinned = server.pinned := by
  obtain ⟨call, world⟩ := receipt
  cases call with
  | begin root options => rw [received_begin_eq]
  | didChangeConfiguration pushed =>
    rw [received_didChangeConfiguration, pushSettings_eq]
    split <;> rfl
  | didChange url version texts =>
    rw [received_didChange]
    split <;> rfl
  | _ => simp [mapDocuments]

/-! ## The invariant -/

/-- The layers of the server are those of the command line and of a history. -/
structure SettingsFollow (server : Server) (overrides : Settings.Patch) (file : Option Settings)
    (history : List Receipt) : Prop where
  /-- The command line's layer never changes. -/
  overrides_eq : server.layers.overrides = overrides
  /-- The editor's layer is the last value that was accepted. -/
  editor_eq : server.layers.editor = lastAccepted? history
  /-- The file's layer is the file that was given, or else the last one that was found. -/
  file_eq : server.layers.file = file.or (lastLoaded? history)
  /-- A file that was given is never replaced. -/
  pinned_eq : server.pinned = file.isSome

/-- The invariant holds before any call. -/
theorem settingsFollow_start (overrides : Settings.Patch) (file : Option Settings) :
    (start overrides file).SettingsFollow overrides file [] where
  overrides_eq := rfl
  editor_eq := rfl
  file_eq := by cases file <;> rfl
  pinned_eq := rfl

/-- One call keeps the invariant. -/
theorem settingsFollow_received {server : Server} {overrides : Settings.Patch}
    {file : Option Settings} {history : List Receipt}
    (hfollow : server.SettingsFollow overrides file history) (receipt : Receipt) :
    (server.received receipt).SettingsFollow overrides file (history ++ [receipt]) where
  overrides_eq := by rw [layers_received, hfollow.overrides_eq]
  editor_eq := by rw [layers_received, hfollow.editor_eq, lastAccepted?_concat]
  file_eq := by
    rw [layers_received, hfollow.pinned_eq, hfollow.file_eq, lastLoaded?_concat]
    cases file <;> simp
  pinned_eq := (pinned_received server receipt).trans hfollow.pinned_eq

/-- The invariant holds after every history. -/
theorem settingsFollow_after (overrides : Settings.Patch) (file : Option Settings)
    (history : List Receipt) :
    ((start overrides file).after history).SettingsFollow overrides file history := by
  induction history using List.reverseRecOn with
  | nil => exact settingsFollow_start overrides file
  | append_singleton history receipt ih =>
    rw [after_concat]
    exact settingsFollow_received ih receipt

/-- The invariant keeps the layers usable, because only usable values were accepted. -/
theorem SettingsFollow.usable {server : Server} {overrides : Settings.Patch}
    {file : Option Settings} {history : List Receipt}
    (hfollow : server.SettingsFollow overrides file history) : server.layers.Usable := by
  intro pushed hpushed
  rw [hfollow.editor_eq] at hpushed
  obtain ⟨receipt, -, hsaid⟩ := List.exists_of_findSome?_eq_some hpushed
  exact (Option.filter_eq_some_iff.mp hsaid).2

/-- After any history of calls each key of the settings in force has the value of the command line,
or else of the value that the editor last pushed with success, or else of the settings file that
was given or last found, or else its default. The layers resolve, so nothing is ever passed over. A
value that cannot be used changes nothing when it is pushed, and any other replaces the editor's
layer as a whole and touches no other layer. -/
theorem settings_after (overrides : Settings.Patch) (file : Option Settings)
    (history : List Receipt) :
    let server := (start overrides file).after history
    (∀ key, server.settings.value key =
      ((overrides.value? key).or ((lastAccepted? history).bind (editorValue? · key))).getD
        (((file.or (lastLoaded? history)).getD Settings.default).value key)) ∧
    server.layers.resolve = .ok server.settings ∧
    (∀ world pushed, server.received ⟨.didChangeConfiguration pushed, world⟩ =
      if acceptable pushed then
        { server with layers := { server.layers with editor := some pushed } }
      else server) ∧
    ∀ world root options, server.received ⟨.begin root options, world⟩ =
      { server with
        root := root.bind (·.filePath?)
        layers :=
          { server.layers with
            file := file.or
              ((Receipt.loaded? ⟨.begin root options, world⟩).or (lastLoaded? history))
            editor := (options.filter acceptable).or server.layers.editor } } := by
  intro server
  have hfollow : server.SettingsFollow overrides file history :=
    settingsFollow_after overrides file history
  refine ⟨fun key => ?_, Settings.Layers.resolve_of_usable hfollow.usable, fun world pushed => ?_,
    fun world root options => ?_⟩
  · rw [← hfollow.overrides_eq, ← hfollow.editor_eq, ← hfollow.file_eq]
    exact Settings.Layers.value_resolveLossy_of_usable hfollow.usable key
  · rw [received_didChangeConfiguration, pushSettings_eq]
  · rw [received_begin_eq, hfollow.pinned_eq, hfollow.file_eq]
    cases file <;> simp

end Server

end EditorBridge
