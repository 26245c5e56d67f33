import PromptRelay.Proofs.Result
import PromptRelay.Settings.Load

/-!
Contract: what can be relied on once settings are accepted.

Owns:
- that accepted settings have a messenger kind, a prompt path and a backend, so that
  none of the look-ups of a later step fails;
- that loading gives nothing but accepted settings.

Does not own: which settings are given.
-/

namespace PromptRelay

open Result (bind_eq_ok_iff mapError_eq_ok_iff)

variable {settings : Settings}

theorem MessengerSettings.exists_kind_of_validate {settings : MessengerSettings}
    (valid : settings.validate = .ok ()) : ∃ kind, settings.kind = some kind := by
  obtain ⟨kind, required, _⟩ := bind_eq_ok_iff.mp valid
  cases given : settings.kind with
  | none => simp [requireKind, given] at required
  | some other => exact ⟨other, rfl⟩

theorem PromptSettings.requirePath_eq_ok_iff {settings : PromptSettings} {path : String} :
    settings.requirePath = .ok path ↔ settings.path = some path := by
  unfold requirePath
  cases settings.path <;> simp

theorem PromptSettings.exists_path_of_validate {settings : PromptSettings}
    (valid : settings.validate = .ok ()) : ∃ path, settings.requirePath = .ok path := by
  obtain ⟨path, required, _⟩ := bind_eq_ok_iff.mp valid
  exact ⟨path, required⟩

theorem CompletionSettings.exists_backend_of_validate {settings : CompletionSettings}
    (valid : settings.validate = .ok ()) : ∃ backend, settings.backend = .ok backend := by
  unfold validate at valid
  split at valid
  · cases valid
  · split at valid
    · cases valid
    · cases selected : settings.backend with
      | ok backend => exact ⟨backend, rfl⟩
      | error violation =>
          rw [selected] at valid
          cases valid

/-- What later steps look up in settings that are accepted. -/
structure Settings.Complete (settings : Settings) : Prop where
  kind : ∃ kind, settings.messenger.kind = some kind
  path : ∃ path, settings.prompt.requirePath = .ok path
  backend : ∃ backend, settings.completion.backend = .ok backend

theorem Settings.complete_of_validate (valid : settings.validate = .ok ()) : settings.Complete := by
  obtain ⟨_, messenger, rest⟩ := bind_eq_ok_iff.mp valid
  obtain ⟨_, prompt, rest⟩ := bind_eq_ok_iff.mp rest
  obtain ⟨_, completion, _⟩ := bind_eq_ok_iff.mp rest
  exact ⟨settings.messenger.exists_kind_of_validate messenger,
    settings.prompt.exists_path_of_validate prompt,
    settings.completion.exists_backend_of_validate completion⟩

theorem Settings.validate_of_load {world : World} {options : LoadOptions}
    (loaded : Settings.load world options = .ok settings) : settings.validate = .ok () := by
  obtain ⟨layer, _, rest⟩ := bind_eq_ok_iff.mp loaded
  obtain ⟨_, accepted, same⟩ := bind_eq_ok_iff.mp rest
  cases same
  exact mapError_eq_ok_iff.mp accepted

theorem Settings.complete_of_load {world : World} {options : LoadOptions}
    (loaded : Settings.load world options = .ok settings) : settings.Complete :=
  complete_of_validate (validate_of_load loaded)

end PromptRelay
