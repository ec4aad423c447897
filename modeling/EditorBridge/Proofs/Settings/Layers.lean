import EditorBridge.Proofs.Settings.Overlay
import EditorBridge.Settings.Layers

/-!
# Layers of settings

Which settings are in force where a settings file, an editor and the command line each have a say.
An editor's layer is only replaced by one that can be used, and such a layer can be used over every
file and under every command line, so the layers always resolve.

## Main definitions

* `Layers.Usable`: the editor's layer can be used, if there is one.

## Main results

* `pushEditor_eq_ok`, `pushEditor_eq_error`: whether a push is accepted depends on the pushed value
  alone, never on the layers that it meets.
* `resolve_of_usable`, `value_resolveLossy_of_usable`: usable layers resolve, and each key has the
  value of the highest layer that sets it.
-/

namespace EditorBridge.Settings

namespace Layers

/-- The editor's layer can be used, if there is one. -/
def Usable (layers : Layers) : Prop :=
  ∀ pushed ∈ layers.editor, acceptable pushed = true

/-- Usable layers resolve, and then nothing is passed over. -/
theorem resolve_of_usable {layers : Layers} (husable : layers.Usable) :
    layers.resolve = .ok layers.resolveLossy := by
  have hok : ∃ settings, layers.resolve = .ok settings := by
    unfold resolve
    cases heditor : layers.editor with
    | none => exact ⟨_, rfl⟩
    | some pushed =>
      obtain ⟨patch, -, hmerge⟩ := mergeEditor_eq_ok (husable pushed heditor)
      exact ⟨_, by simp only [hmerge]; rfl⟩
  obtain ⟨settings, hresolve⟩ := hok
  simp only [resolveLossy, hresolve]

/-- In usable layers a key has the value of the command line, or else of the editor, or else of the
file, or else its default. -/
theorem value_resolveLossy_of_usable {layers : Layers} (husable : layers.Usable) (key : Key) :
    layers.resolveLossy.value key =
      ((layers.overrides.value? key).or (layers.editor.bind (editorValue? · key))).getD
        ((layers.file.getD Settings.default).value key) := by
  have hresolve := resolve_of_usable husable
  unfold resolve at hresolve
  cases heditor : layers.editor with
  | none =>
    rw [heditor] at hresolve
    rw [← Except.ok.inj hresolve]
    simp [base]
  | some pushed =>
    obtain ⟨patch, hvalue, hmerge⟩ := mergeEditor_eq_ok (husable pushed heditor)
    simp only [heditor, hmerge] at hresolve
    rw [← Except.ok.inj hresolve]
    cases hoverride : layers.overrides.value? key <;> simp [base, hoverride, hvalue]

/-- An acceptable value replaces the editor's layer and nothing else, whatever the layers are. -/
theorem pushEditor_eq_ok (layers : Layers) {pushed : Json} (haccept : acceptable pushed = true) :
    layers.pushEditor pushed = .ok { layers with editor := some pushed } := by
  have husable : Usable { layers with editor := some pushed } := by
    intro given hgiven
    rwa [← Option.mem_some.mp hgiven]
  simp only [pushEditor, resolve_of_usable husable]
  rfl

/-- Any other value is refused, whatever the layers are. -/
theorem pushEditor_eq_error (layers : Layers) {pushed : Json}
    (haccept : acceptable pushed = false) :
    ∃ mismatch, layers.pushEditor pushed = .error mismatch := by
  obtain ⟨mismatch, hmerge⟩ := mergeEditor_eq_error haccept
  exact ⟨mismatch, by simp only [pushEditor, resolve, hmerge]; rfl⟩

end Layers

end EditorBridge.Settings
