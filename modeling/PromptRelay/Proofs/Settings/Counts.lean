import PromptRelay.Proofs.Settings.Faults

/-!
Contract: counts in the environment, up to the limit of a machine word.

Owns:
- that the texts which spell a count, and no others, are read, as the number they spell;
- what loading makes of the text given for a count, and of the decimal notation of a number.

Does not own: which texts spell a count, and which counts are acceptable.
-/

namespace PromptRelay

open Text
open Result (failure?)

/-! ## Reading -/

/-- The settings that are counts. -/
inductive CountSetting where
  | sourceMinimum
  | sourceMaximum
  | sinkMinimum
  | sinkMaximum
  | timeoutSeconds
deriving DecidableEq, Repr

namespace CountSetting

def setting : CountSetting → Setting
  | .sourceMinimum => .sourceMinimum
  | .sourceMaximum => .sourceMaximum
  | .sinkMinimum => .sinkMinimum
  | .sinkMaximum => .sinkMaximum
  | .timeoutSeconds => .timeoutSeconds

/-- The count that settings hold. Some may be left without one. -/
def value? (count : CountSetting) (settings : Settings) : Option Nat :=
  match count with
  | .sourceMinimum => some settings.messenger.sourceMinimum
  | .sourceMaximum => settings.messenger.sourceMaximum
  | .sinkMinimum => some settings.messenger.sinkMinimum
  | .sinkMaximum => settings.messenger.sinkMaximum
  | .timeoutSeconds => some settings.completion.timeoutSeconds

/-- Reads a count from the environment, if that gives one. -/
def read (count : CountSetting) (world : World) : Except SettingsError (Option Nat) :=
  readScalar world count.setting (readBy readCount? count.setting)

theorem settingFault?_eq (count : CountSetting) (world : World) :
    world.settingFault? count.setting = failure? (count.read world) := by
  cases count <;> exact congrArg failure? (readScalar_eq world _ rfl).symm

section

variable {count : CountSetting} {world : World} {text : String}

theorem read_eq (given : world.settingText? count.setting = some text)
    (notBlank : isBlankText text = false) :
    count.read world = (readBy readCount? count.setting text).map some := by
  have scalar : world.scalarText? count.setting = some text := by
    simp [World.scalarText?, given, notBlank]
  rw [read, readScalar, scalar]

theorem read_eq_ok_iff (given : world.settingText? count.setting = some text)
    (notBlank : isBlankText text = false) {number : Nat} :
    count.read world = .ok (some number) ↔ SpellsCount text number := by
  rw [read_eq given notBlank, ← readCount?_eq_some_iff, readBy]
  cases readCount? text <;> simp [Except.map]

theorem read_eq_error_iff (given : world.settingText? count.setting = some text)
    (notBlank : isBlankText text = false) {error : SettingsError} :
    count.read world = .error error ↔
      (∀ number, ¬ SpellsCount text number) ∧
      error = .unreadableVariable count.setting.variableName text := by
  rw [read_eq given notBlank, ← readCount?_eq_none_iff, readBy]
  cases readCount? text <;> simp [Except.map, eq_comm]

/-- What is read comes before the settings file and the defaults. -/
theorem value?_of_layered {options : LoadOptions} {settings : Settings} {number : Nat}
    (read : count.read world = .ok (some number))
    (values : ∀ setting, settings.get setting = layered? world options setting) :
    count.value? settings = some number := by
  have value {setting : Setting} {found : setting.Value}
      (noOverride : options.override? setting = none)
      (provided : world.settingValue setting = .ok (some found)) :
      settings.get setting = some found :=
    (values setting).trans (layered?_eq_of_given noOverride provided)
  cases count <;> exact value rfl (settingValue_of_readScalar rfl read)

theorem value?_of_gatherLayers {options : LoadOptions} {layer : Layer} {number : Nat}
    (read : count.read world = .ok (some number))
    (gathered : gatherLayers world options = .ok layer) :
    count.value? layer.toSettings = some number := by
  obtain ⟨_, gatheredAs, _, _, values⟩ | ⟨_, failed, _⟩ := gatherLayers_cases world options
  · rw [gathered] at gatheredAs
    cases gatheredAs
    exact value?_of_layered read values
  · rw [gathered] at failed
    cases failed

end

end CountSetting

/-! ## Summary -/

/-- The text given for a count, unless it is blank, is read if and only if it spells a natural
number below the limit of a word, and then as exactly that number. The settings hold it, whether
they turn out acceptable or not, and loading does not fail because of its text. Any other text is
refused, and loading fails with the name of the variable and the text as it stands if and only if
neither the settings file nor an earlier variable makes it fail before. The decimal notation of a
number is thus read as that number below the limit, and refused from there on. -/
theorem counts_readExactly (count : CountSetting) (world : World) (text : String)
    (given : world.settingText? count.setting = some text) (notBlank : isBlankText text = false) :
    (∀ number, count.read world = .ok (some number) ↔ SpellsCount text number) ∧
    (∀ error, count.read world = .error error ↔
      (∀ number, ¬ SpellsCount text number) ∧
      error = .unreadableVariable count.setting.variableName text) ∧
    (∀ number, SpellsCount text number → ∀ options,
      (∀ layer, gatherLayers world options = .ok layer →
        count.value? layer.toSettings = some number) ∧
      (∀ settings, Settings.load world options = .ok settings →
        count.value? settings = some number) ∧
      ∀ other, Settings.load world options ≠
        .error (.unreadableVariable count.setting.variableName other)) ∧
    ((∀ number, ¬ SpellsCount text number) → ∀ options,
      Settings.load world options =
          .error (.unreadableVariable count.setting.variableName text) ↔
        count.setting.IsReached world options) ∧
    ∀ number, text = toString number → count.read world =
      if number < 2 ^ 64 then .ok (some number)
      else .error (.unreadableVariable count.setting.variableName text) := by
  refine ⟨fun number => CountSetting.read_eq_ok_iff given notBlank,
    fun error => CountSetting.read_eq_error_iff given notBlank, ?_, ?_, ?_⟩
  · intro number spelled options
    have read := (CountSetting.read_eq_ok_iff given notBlank).mpr spelled
    refine ⟨fun layer => CountSetting.value?_of_gatherLayers read, ?_, ?_⟩
    · intro settings loaded
      exact CountSetting.value?_of_layered read (Settings.load_eq_ok_iff.mp loaded).2.1
    · intro other failed
      have fault := (Settings.load_eq_unreadable_iff.mp failed).2
      rw [count.settingFault?_eq, read] at fault
      cases fault
  · intro unspelled options
    have read := (CountSetting.read_eq_error_iff given notBlank).mpr ⟨unspelled, rfl⟩
    rw [Settings.load_eq_unreadable_iff, count.settingFault?_eq, read]
    exact and_iff_left rfl
  · intro number written
    subst written
    split
    case isTrue isHeld =>
      exact (CountSetting.read_eq_ok_iff given notBlank).mpr
        (spellsCount_toString_iff.mpr ⟨rfl, isHeld⟩)
    case isFalse exceeds =>
      refine (CountSetting.read_eq_error_iff given notBlank).mpr ⟨?_, rfl⟩
      intro other spelled
      exact exceeds (spellsCount_toString_iff.mp spelled).2

/-- The largest count, with a sign, leading zeros and blanks, in the variable with small letters. -/
def brimmingWorld : World where
  environment := [
    ("MESSENGER_KIND", Text.bytes "nats"),
    ("messenger_sink_count_max", Text.bytes "\u3000+00018446744073709551615\n"),
    ("PROMPT_PATH", Text.bytes "prompt.yaml"),
    ("OLLAMA_BASE_URL", Text.bytes "http://localhost:11434"),
    ("OLLAMA_MODEL_NAME", Text.bytes "llama3")]

/-- The same, and a count that is larger by one. -/
def overflowingWorld : World :=
  { brimmingWorld with
    environment := ("MESSENGER_SINK_COUNT_MIN", Text.bytes "18446744073709551616") ::
      brimmingWorld.environment }

/-- The largest count is loaded, and the next one is refused although it is well formed. -/
theorem counts_brimmingWorld :
    (brimmingWorld.settingText? .sinkMaximum = some "\u3000+00018446744073709551615\n" ∧
      ∃ settings, Settings.load brimmingWorld {} = .ok settings ∧
        settings.messenger.sinkMaximum = some 18446744073709551615) ∧
    overflowingWorld.settingText? .sinkMinimum = some "18446744073709551616" ∧
      Settings.load overflowingWorld {} =
        .error (.unreadableVariable "MESSENGER_SINK_COUNT_MIN" "18446744073709551616") := by
  have givenLargest : brimmingWorld.settingText? .sinkMaximum =
      some "\u3000+00018446744073709551615\n" := by decide +kernel
  have largest : SpellsCount "\u3000+00018446744073709551615\n" 18446744073709551615 :=
    readCount?_eq_some_iff.mp (by decide +kernel)
  have loads : (Settings.load brimmingWorld {}).isOk = true := by decide +kernel
  have givenNext : overflowingWorld.settingText? .sinkMinimum = some "18446744073709551616" := by
    decide +kernel
  have tooLarge : ∀ number, ¬ SpellsCount "18446744073709551616" number :=
    readCount?_eq_none_iff.mp (by decide +kernel)
  have reached : Setting.sinkMinimum.IsReached overflowingWorld {} :=
    ⟨⟨{}, by rfl⟩, [.kind, .servers, .clientId, .groupId, .sources, .sinks, .sourceMinimum,
      .sourceMaximum], _, rfl, by decide +kernel⟩
  refine ⟨⟨givenLargest, ?_⟩, givenNext, ?_⟩
  · obtain ⟨_, _, spelled, _⟩ :=
      counts_readExactly .sinkMaximum brimmingWorld _ givenLargest (by decide +kernel)
    obtain ⟨settings, loaded⟩ := Result.exists_eq_ok_of_isOk loads
    exact ⟨settings, loaded, (spelled _ largest {}).2.1 settings loaded⟩
  · obtain ⟨_, _, _, unspelled, _⟩ :=
      counts_readExactly .sinkMinimum overflowingWorld _ givenNext (by decide +kernel)
    exact (unspelled tooLarge {}).mpr reached

end PromptRelay
