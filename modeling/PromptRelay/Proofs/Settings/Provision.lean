import PromptRelay.Proofs.Settings.Environment
import PromptRelay.Proofs.Settings.Spelling
import PromptRelay.Proofs.Text.Lossy

/-!
Contract: what the environment is to provide for a setting.

Owns:
- which of its two variables gives the text for a setting;
- what a text denotes as the value of a setting, and what it is refused with if it denotes
  nothing;
- that the values and the faults of the environment are exactly these.

Does not own: the order in which variables are read, and the layers above and below.
-/

namespace PromptRelay

open Text
open Result (mapError_eq_ok_iff mapError_eq_error_iff failure?_eq_some_iff)

/-! ## Texts -/

/-- The variable is set to that text. A text is set as its UTF-8 encoding. -/
def World.Sets (world : World) (name text : String) : Prop :=
  world.variableBytes? name = some (bytes text)

/-- The text given for a setting. The variable in small letters counts only if the one in
capitals is not set to a text, be it unset or set to what is not valid UTF-8. -/
inductive World.Gives (world : World) (setting : Setting) (text : String) : Prop where
  | inCapitals (isSet : world.Sets setting.variableName text)
  | inSmallLetters (noText : ∀ other, ¬ world.Sets setting.variableName other)
      (isSet : world.Sets setting.variableName.toLower text)

section

variable {world : World} {setting : Setting}

theorem variableText?_eq_some_iff {name text : String} :
    world.variableText? name = some text ↔ world.Sets name text := by
  rw [World.variableText?, World.Sets, Option.bind_eq_some_iff]
  constructor
  · rintro ⟨octets, isSet, isText⟩
    rw [isSet, eq_bytes_of_ofBytes? isText]
  · intro isSet
    exact ⟨_, isSet, ofBytes?_bytes text⟩

theorem settingText?_eq_some_iff {text : String} :
    world.settingText? setting = some text ↔ world.Gives setting text := by
  rw [World.settingText?, Setting.smallVariableName, lowered_eq_toLower]
  cases inCapitals : world.variableText? setting.variableName with
  | some given =>
      have isSet := variableText?_eq_some_iff.mp inCapitals
      constructor
      · rintro ⟨⟩
        exact .inCapitals isSet
      · rintro (other | ⟨noText, _⟩)
        · exact inCapitals.symm.trans (variableText?_eq_some_iff.mpr other)
        · exact absurd isSet (noText given)
  | none =>
      have noText (text : String) : ¬ world.Sets setting.variableName text := by
        intro isSet
        rw [variableText?_eq_some_iff.mpr isSet] at inCapitals
        cases inCapitals
      constructor
      · intro small
        exact .inSmallLetters noText (variableText?_eq_some_iff.mp small)
      · rintro (isSet | ⟨_, isSet⟩)
        · exact absurd isSet (noText text)
        · exact variableText?_eq_some_iff.mpr isSet

end

/-! ## Values -/

/-- What a text denotes as the value of a setting. -/
def Setting.Denotes : (setting : Setting) → String → setting.Value → Prop
  | .kind => fun text kind => SpellsWord text kind.name
  | .servers | .sources | .sinks => SpellsItems
  | .sourceMinimum | .sourceMaximum | .sinkMinimum | .sinkMaximum | .timeoutSeconds => SpellsCount
  | .verbose => SpellsSwitch
  | .logFormat => fun text format => SpellsWord text format.name
  | .clientId | .groupId | .promptPath | .ollamaBaseUrl | .ollamaModelName | .openAiApiKey
  | .openAiBaseUrl | .openAiModelName | .logLevel => fun text value => value = text

/-- What tells of a text that denotes no value of a setting. A kind or a format is told by its
word, and anything else by the name of the variable in capitals and the text as it stands. -/
def Setting.IsRefusedWith : (setting : Setting) → String → SettingsError → Prop
  | .kind => fun text error =>
      ∃ word, SpellsWord text word ∧ error = .invalid (.unsupportedKind word)
  | .logFormat => fun text error =>
      ∃ word, SpellsWord text word ∧ error = .invalid (.unsupportedFormat word)
  | setting => fun text error => error = .unreadableVariable setting.variableName text

theorem ofText_eq_ok_iff {setting : Setting} {text : String} {value : setting.Value} :
    setting.ofText text = .ok value ↔ setting.Denotes text value := by
  cases setting
  case kind => rw [Setting.ofText, mapError_eq_ok_iff, readKind_eq_ok_iff, Setting.Denotes]
  case logFormat => rw [Setting.ofText, mapError_eq_ok_iff, readFormat_eq_ok_iff, Setting.Denotes]
  case servers | sources | sinks =>
    rw [Setting.ofText, Except.ok.injEq, readItems_eq_iff, Setting.Denotes]
  case sourceMinimum | sourceMaximum | sinkMinimum | sinkMaximum | timeoutSeconds =>
    rw [Setting.ofText, readBy_eq_ok_iff, readCount?_eq_some_iff, Setting.Denotes]
  case verbose => rw [Setting.ofText, readBy_eq_ok_iff, readSwitch?_eq_some_iff, Setting.Denotes]
  all_goals rw [Setting.ofText, Except.ok.injEq, Setting.Denotes, eq_comm]

/-- A refusal by a word is told as a violation. -/
theorem mapError_invalid_eq_error_iff {read : Except Violation α} {text : String}
    {unsupported : String → Violation} {denotesNothing : Prop} {error : SettingsError}
    (fails : ∀ {violation}, read = .error violation ↔
      denotesNothing ∧ ∃ word, SpellsWord text word ∧ violation = unsupported word) :
    read.mapError SettingsError.invalid = .error error ↔
      denotesNothing ∧ ∃ word, SpellsWord text word ∧ error = .invalid (unsupported word) := by
  simp only [mapError_eq_error_iff, fails]
  constructor
  · rintro ⟨_, ⟨refused, word, spelled, rfl⟩, rfl⟩
    exact ⟨refused, word, spelled, rfl⟩
  · rintro ⟨refused, word, spelled, rfl⟩
    exact ⟨_, ⟨refused, word, spelled, rfl⟩, rfl⟩

theorem ofText_eq_error_iff {setting : Setting} {text : String} {error : SettingsError} :
    setting.ofText text = .error error ↔
      (∀ value, ¬ setting.Denotes text value) ∧ setting.IsRefusedWith text error := by
  simp only [← ofText_eq_ok_iff]
  cases setting
  case kind =>
    simp only [Setting.ofText, mapError_eq_ok_iff, readKind_eq_ok_iff, Setting.IsRefusedWith]
    exact mapError_invalid_eq_error_iff readKind_eq_error_iff
  case logFormat =>
    simp only [Setting.ofText, mapError_eq_ok_iff, readFormat_eq_ok_iff, Setting.IsRefusedWith]
    exact mapError_invalid_eq_error_iff readFormat_eq_error_iff
  case sourceMinimum | sourceMaximum | sinkMinimum | sinkMaximum | timeoutSeconds | verbose =>
    simp only [Setting.ofText, readBy_eq_error_iff, readBy_eq_ok_iff,
      Option.eq_none_iff_forall_ne_some, ne_eq, Setting.IsRefusedWith]
  -- Any other text denotes something.
  all_goals simp [Setting.ofText]

/-! ## Provision -/

/-- What the environment provides for a setting: the value that the text given for it denotes.
Without a text it provides nothing, and for a blank one it provides an empty list, but no
scalar. -/
inductive World.Provides (world : World) (setting : Setting) : Option setting.Value → Prop where
  | nothing (notGiven : ∀ text, ¬ world.Gives setting text) : world.Provides setting none
  | blank {text : String} (given : world.Gives setting text) (isBlank : isBlankText text) :
      world.Provides setting setting.ofBlank?
  | value {text : String} {value : setting.Value} (given : world.Gives setting text)
      (notBlank : ¬ isBlankText text) (denotes : setting.Denotes text value) :
      world.Provides setting (some value)

/-- The environment is refused for the text that it gives for a setting, which is not blank and
denotes no value. -/
inductive World.IsRefusedFor (world : World) (setting : Setting) (error : SettingsError) :
    Prop where
  | text {text : String} (given : world.Gives setting text) (notBlank : ¬ isBlankText text)
      (denotesNothing : ∀ value, ¬ setting.Denotes text value)
      (refused : setting.IsRefusedWith text error)

section

variable {world : World} {setting : Setting}

theorem settingValue_of_gives {text : String} (given : world.Gives setting text) :
    world.settingValue setting =
      if isBlankText text then .ok setting.ofBlank? else (setting.ofText text).map some := by
  rw [World.settingValue, settingText?_eq_some_iff.mpr given]

theorem settingValue_cases (world : World) (setting : Setting) :
    (∃ provided, world.settingValue setting = .ok provided ∧ world.Provides setting provided) ∨
      ∃ error, world.settingValue setting = .error error ∧ world.IsRefusedFor setting error := by
  cases text? : world.settingText? setting with
  | none =>
      have notGiven : ∀ text, ¬ world.Gives setting text := by
        simpa only [Option.eq_none_iff_forall_ne_some, ne_eq, settingText?_eq_some_iff] using text?
      exact .inl ⟨none, by rw [World.settingValue, text?], .nothing notGiven⟩
  | some text =>
      have given := settingText?_eq_some_iff.mp text?
      rw [settingValue_of_gives given]
      by_cases blank : isBlankText text
      · exact .inl ⟨_, if_pos blank, .blank given blank⟩
      · rw [if_neg blank]
        cases read : setting.ofText text with
        | ok value => exact .inl ⟨some value, rfl, .value given blank (ofText_eq_ok_iff.mp read)⟩
        | error error =>
            obtain ⟨denotesNothing, refused⟩ := ofText_eq_error_iff.mp read
            exact .inr ⟨error, rfl, given, blank, denotesNothing, refused⟩

theorem World.Provides.settingValue_eq {provided : Option setting.Value}
    (provides : world.Provides setting provided) : world.settingValue setting = .ok provided := by
  cases provides with
  | nothing notGiven =>
      have noText : world.settingText? setting = none := by
        simpa only [Option.eq_none_iff_forall_ne_some, ne_eq, settingText?_eq_some_iff]
          using notGiven
      rw [World.settingValue, noText]
  | blank given isBlank => rw [settingValue_of_gives given, if_pos isBlank]
  | value given notBlank denotes =>
      rw [settingValue_of_gives given, if_neg notBlank, ofText_eq_ok_iff.mpr denotes]
      rfl

theorem World.IsRefusedFor.settingValue_eq {error : SettingsError}
    (isRefused : world.IsRefusedFor setting error) : world.settingValue setting = .error error := by
  obtain ⟨given, notBlank, denotesNothing, refused⟩ := isRefused
  rw [settingValue_of_gives given, if_neg notBlank,
    ofText_eq_error_iff.mpr ⟨denotesNothing, refused⟩]
  rfl

theorem settingFault?_eq_some_iff {error : SettingsError} :
    world.settingFault? setting = some error ↔ world.IsRefusedFor setting error := by
  rw [World.settingFault?, failure?_eq_some_iff]
  refine ⟨fun failed => ?_, World.IsRefusedFor.settingValue_eq⟩
  obtain ⟨_, read, _⟩ | ⟨_, sameFailure, isRefused⟩ := settingValue_cases world setting
  · rw [failed] at read
    cases read
  · rw [failed] at sameFailure
    cases sameFailure
    exact isRefused

end

end PromptRelay
