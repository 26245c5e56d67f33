import PromptRelay.Command.Checkup
import PromptRelay.Command.Listing
import PromptRelay.Proofs.Settings.Layering
import PromptRelay.Proofs.Text.Trimming

/-!
Contract: what the operator is told does not depend on the API key.

Owns:
- keys that are shown alike;
- that the key changes nothing of what is loaded but itself, and nothing of what is
  found wrong with it;
- that the listing and the report of two worlds that differ in the key are the same.

Does not own: keys that the settings file asks for, which may end up anywhere.

The two worlds are followed through loading side by side. What is loaded in one of them
is what is loaded in the other with the key put in its place, so that it remains to look
at each place where a key could be told.
-/

namespace PromptRelay

open Text

/-! ## Keys -/

/-- Without surrounding blanks either neither of the keys has a dash, or both have one
and agree on what stands before the first. -/
def AlikeKeys (key other : String) : Prop :=
  '-' ∉ trim key.toList ∧ '-' ∉ trim other.toList ∨
    '-' ∈ trim key.toList ∧ '-' ∈ trim other.toList ∧
      (trim key.toList).takeWhile (· ≠ '-') = (trim other.toList).takeWhile (· ≠ '-')

theorem shownKey_eq {key other : String} (notBlank : isBlankText key = false)
    (otherNotBlank : isBlankText other = false) (alike : AlikeKeys key other) :
    Command.shownKey other = Command.shownKey key := by
  rw [Command.shownKey, Command.shownKey, trim_isEmpty_eq, trim_isEmpty_eq, notBlank,
    otherNotBlank, before?_eq, before?_eq]
  rcases alike with ⟨absent, otherAbsent⟩ | ⟨present, otherPresent, same⟩
  · rw [if_neg absent, if_neg otherAbsent]
  · rw [if_pos present, if_pos otherPresent, same]

/-! ## Settings with a key -/

/-- The layer with the key put in its place. -/
def Layer.withKey (key : String) (layer : Layer) : Layer :=
  { layer with openAiApiKey := some key }

/-- The settings with the key put in its place. -/
def Settings.withKey (key : String) (settings : Settings) : Settings :=
  { settings with completion := { settings.completion with
      openAi := { settings.completion.openAi with apiKey := some key } } }

section

variable {key other : String} (settings : Settings) (notBlank : isBlankText key = false)
  (otherNotBlank : isBlankText other = false)

include notBlank otherNotBlank

/-- Whichever key there is, the same backend is selected, but for the key. -/
theorem backend_withKey :
    (∃ violation, (settings.withKey other).completion.backend = .error violation ∧
      (settings.withKey key).completion.backend = .error violation) ∨
    ∃ otherBackend backend, (settings.withKey other).completion.backend = .ok otherBackend ∧
      (settings.withKey key).completion.backend = .ok backend ∧
      otherBackend.name = backend.name ∧ otherBackend.modelName = backend.modelName := by
  simp only [CompletionSettings.backend, Settings.withKey, Option.filter_some, notBlank,
    otherNotBlank, Bool.not_false, if_true]
  split
  · exact .inr ⟨_, _, rfl, rfl, rfl, rfl⟩
  · cases settings.completion.openAi.modelName.bind nonBlank? with
    | none => exact .inl ⟨_, rfl, rfl⟩
    | some modelName => exact .inr ⟨_, _, rfl, rfl, rfl, rfl⟩

theorem validate_withKey :
    (settings.withKey other).validate = (settings.withKey key).validate := by
  have sameOutcome : (settings.withKey other).completion.backend.map (fun _ => ()) =
      (settings.withKey key).completion.backend.map fun _ => () := by
    obtain ⟨_, otherFailed, failed⟩ | ⟨_, _, otherSelected, selected, _⟩ :=
      backend_withKey settings notBlank otherNotBlank
    · rw [otherFailed, failed]
    · rw [otherSelected, selected]
      rfl
  have sameCompletion : (settings.withKey other).completion.validate =
      (settings.withKey key).completion.validate := by
    rw [CompletionSettings.validate, CompletionSettings.validate, sameOutcome]
    rfl
  rw [Settings.validate, Settings.validate, sameCompletion]
  rfl

end

/-! ## Loading -/

/-- The name of the variable of the key. -/
abbrev keyName : String := Setting.openAiApiKey.variableName

/-- Two worlds that differ in a key which is there in both of them, and for which the
settings file does not ask. -/
structure World.DifferInKey (other world : World) (otherKey key : String) : Prop where
  same : other.SameBut world keyName
  given : world.variableText? keyName = some key
  otherGiven : other.variableText? keyName = some otherKey
  notBlank : isBlankText key = false
  otherNotBlank : isBlankText otherKey = false
  notPutIn : ∀ text, fileText? world {} = some text → keyName ∉ interpolatedNames text

theorem scalarText?_key {world : World} {key : String}
    (given : world.variableText? keyName = some key) (notBlank : isBlankText key = false) :
    world.scalarText? .openAiApiKey = some key := by
  have text : world.settingText? .openAiApiKey = some key := by
    rw [World.settingText?, given]
    rfl
  rw [World.scalarText?, text, Option.filter_some, notBlank]
  rfl

namespace World.DifferInKey

variable {world other : World} {key otherKey : String}
  (differ : other.DifferInKey world otherKey key)

include differ

theorem settingText?_eq {setting : Setting} (notKey : setting ≠ .openAiApiKey) :
    other.settingText? setting = world.settingText? setting := by
  have notNamed (name : String) (named : setting.IsNamedBy name) : name ≠ keyName := by
    rintro rfl
    exact notKey (Setting.eq_of_isNamedBy named (by simp [Setting.IsNamedBy]))
  rw [World.settingText?, World.settingText?,
    differ.same.variableText?_eq (notNamed _ (by simp [Setting.IsNamedBy])),
    differ.same.variableText?_eq (notNamed _ (by simp [Setting.IsNamedBy]))]

theorem ofEnvironment_eq :
    Layer.ofEnvironment other = (Layer.withKey otherKey <$> Layer.ofEnvironment world) ∧
      Layer.ofEnvironment world = (Layer.withKey key <$> Layer.ofEnvironment world) := by
  have keyText := scalarText?_key differ.given differ.notBlank
  have otherKeyText := scalarText?_key differ.otherGiven differ.otherNotBlank
  have sameScalar {setting : Setting} (notKey : setting ≠ .openAiApiKey) :
      other.scalarText? setting = world.scalarText? setting := by
    rw [World.scalarText?, World.scalarText?, differ.settingText?_eq notKey]
  have sameItems {setting : Setting} (notKey : setting ≠ .openAiApiKey) :
      givenItems? other setting = givenItems? world setting := by
    rw [givenItems?, givenItems?, differ.settingText?_eq notKey]
  have sameReading {setting : Setting} (notKey : setting ≠ .openAiApiKey) {α : Type}
      (read : String → Except SettingsError α) :
      readScalar other setting read = readScalar world setting read := by
    rw [readScalar, readScalar, sameScalar notKey]
  constructor
  · simp [Layer.ofEnvironment, sameReading, sameScalar, sameItems, keyText, otherKeyText,
      Layer.withKey, map_bind]
  · simp [Layer.ofEnvironment, keyText, Layer.withKey, map_bind]

theorem settingsPath?_eq : settingsPath? other none = settingsPath? world none := by
  rw [settingsPath?, settingsPath?, differ.same.files]

theorem fileLayer_eq : fileLayer other {} = fileLayer world {} := by
  rw [fileLayer, fileLayer, differ.settingsPath?_eq]
  cases found : settingsPath? world none with
  | none => rfl
  | some path =>
      change Layer.ofFile other path = Layer.ofFile world path
      rw [Layer.ofFile, Layer.ofFile, differ.same.files]
      cases stands : world.readText path with
      | error cause => rfl
      | ok text =>
          have isFileText : fileText? world {} = some text := by
            simp [fileText?, found, stands, Except.toOption]
          have sameFilled : interpolate other.variableText? text =
              interpolate world.variableText? text := by
            apply interpolate_congr
            intro name asked
            apply differ.same.variableText?_eq
            intro isKey
            exact differ.notPutIn text isFileText (isKey ▸ asked)
          change ((interpolate other.variableText? text).mapError _ >>= _) = _
          rw [sameFilled]
          rfl

theorem gatherLayers_eq :
    gatherLayers other {} = (Layer.withKey otherKey <$> gatherLayers world {}) ∧
      gatherLayers world {} = (Layer.withKey key <$> gatherLayers world {}) := by
  obtain ⟨sameElsewhere, sameHere⟩ := differ.ofEnvironment_eq
  rw [gatherLayers, gatherLayers, differ.fileLayer_eq]
  cases fileLayer world {} with
  | error error => exact ⟨rfl, rfl⟩
  | ok file =>
      constructor
      · change (Layer.ofEnvironment other >>= _) = _
        rw [sameElsewhere]
        cases Layer.ofEnvironment world <;> rfl
      · change (Layer.ofEnvironment world >>= _) = _
        rw [sameHere]
        cases Layer.ofEnvironment world <;> rfl

/-- What is loaded differs in the key only, and nothing is found wrong with one key that is
not with the other. -/
theorem load_eq :
    (∃ error, Settings.load other {} = .error error ∧ Settings.load world {} = .error error) ∨
      ∃ settings : Settings, Settings.load other {} = .ok (settings.withKey otherKey) ∧
        Settings.load world {} = .ok (settings.withKey key) := by
  obtain ⟨sameElsewhere, sameHere⟩ := differ.gatherLayers_eq
  cases gathered : gatherLayers world {} with
  | error error =>
      rw [gathered] at sameElsewhere
      exact .inl ⟨error, by rw [Settings.load, sameElsewhere]; rfl,
        by rw [Settings.load, gathered]; rfl⟩
  | ok layer =>
      rw [gathered] at sameElsewhere sameHere
      have course : Settings.load world {} =
          ((layer.toSettings.withKey key).validate.mapError .invalid >>= fun _ =>
            .ok (layer.toSettings.withKey key)) := by
        rw [Settings.load, gathered, sameHere]
        rfl
      have otherCourse : Settings.load other {} =
          ((layer.toSettings.withKey otherKey).validate.mapError .invalid >>= fun _ =>
            .ok (layer.toSettings.withKey otherKey)) := by
        rw [Settings.load, sameElsewhere]
        rfl
      rw [course, otherCourse,
        validate_withKey layer.toSettings differ.notBlank differ.otherNotBlank]
      cases (layer.toSettings.withKey key).validate with
      | error violation => exact .inl ⟨.invalid violation, rfl, rfl⟩
      | ok _ => exact .inr ⟨layer.toSettings, rfl, rfl⟩

end World.DifferInKey

/-! ## Output -/

namespace Command

variable {world other : World} {key otherKey : String}

theorem shown_withKey (settings : Settings) (notBlank : isBlankText key = false)
    (otherNotBlank : isBlankText otherKey = false) (alike : AlikeKeys key otherKey)
    (setting : Setting) :
    shown (settings.withKey otherKey) setting = shown (settings.withKey key) setting := by
  cases setting
  case openAiApiKey =>
    exact congrArg (fun text => shownText (some text)) (shownKey_eq notBlank otherNotBlank alike)
  all_goals rfl

theorem origin_eq (differ : other.DifferInKey world otherKey key) (setting : Setting) :
    origin other (writtenFile? other) setting = origin world (writtenFile? world) setting := by
  have sameFile : writtenFile? other = writtenFile? world := by
    simp only [writtenFile?, differ.settingsPath?_eq, differ.same.files]
  have isThere {world : World} {text : String} (given : world.variableText? keyName = some text) :
      (world.variableBytes? keyName).isSome = true := by
    obtain ⟨bytes, present, _⟩ := Option.bind_eq_some_iff.mp given
    rw [present]
    rfl
  have sameSet (name : String) :
      (other.variableBytes? name).isSome = (world.variableBytes? name).isSome := by
    by_cases isKey : name = keyName
    · rw [isKey, isThere differ.given, isThere differ.otherGiven]
    · rw [differ.same.others name isKey]
  simp only [origin, sameFile, sameSet]

section

variable (settings : Settings) (notBlank : isBlankText key = false)
  (otherNotBlank : isBlankText otherKey = false)

include notBlank otherNotBlank

theorem shownBackend_withKey :
    shownBackend (settings.withKey otherKey) = shownBackend (settings.withKey key) := by
  rw [shownBackend, shownBackend]
  obtain ⟨_, otherFailed, failed⟩ | ⟨_, _, otherSelected, selected, sameName, sameModel⟩ :=
    backend_withKey settings notBlank otherNotBlank
  · rw [otherFailed, failed]
  · rw [otherSelected, selected]
    dsimp only
    rw [sameName, sameModel]

theorem checkBackend_withKey :
    checkBackend (settings.withKey otherKey) = checkBackend (settings.withKey key) := by
  rw [checkBackend, checkBackend]
  obtain ⟨_, otherFailed, failed⟩ | ⟨_, _, otherSelected, selected, sameName, sameModel⟩ :=
    backend_withKey settings notBlank otherNotBlank
  · rw [otherFailed, failed]
  · rw [otherSelected, selected]
    dsimp only
    rw [sameName, sameModel]
    rfl

end

theorem listing_eq (differ : other.DifferInKey world otherKey key)
    (alike : AlikeKeys key otherKey) : listing other = listing world := by
  rw [listing, listing]
  obtain ⟨error, otherFailed, failed⟩ | ⟨settings, otherLoaded, loaded⟩ := differ.load_eq
  · rw [otherFailed, failed]
  · have sameLine : settingLine other (settings.withKey otherKey) =
        settingLine world (settings.withKey key) := by
      funext setting
      rw [settingLine, settingLine, origin_eq differ,
        shown_withKey settings differ.notBlank differ.otherNotBlank alike]
    rw [otherLoaded, loaded]
    dsimp only
    rw [sameLine, shownBackend_withKey settings differ.notBlank differ.otherNotBlank]

/-- The variables matter to rendering, but not to loading a template. -/
theorem checkTemplate_withKey (differ : other.DifferInKey world otherKey key)
    (settings : Settings) :
    checkTemplate other (settings.withKey otherKey) =
      checkTemplate world (settings.withKey key) := by
  have sameFailure (path : String) :
      (Renderer.ofFile other path).mapError PromptError.message >>= (fun _ => .ok path) =
        ((Renderer.ofFile world path).mapError PromptError.message >>= fun _ => .ok path) := by
    rw [Renderer.ofFile, Renderer.ofFile, differ.same.files]
    cases world.readText path with
    | error cause => rfl
    | ok source =>
        dsimp only
        rw [Renderer.ofSource, Renderer.ofSource]
        cases Template.compile source <;> rfl
  have sameTemplate : findTemplate other (settings.withKey otherKey) =
      findTemplate world (settings.withKey key) := by
    rw [findTemplate, findTemplate]
    simp only [sameFailure]
    rfl
  rw [checkTemplate, checkTemplate, sameTemplate]

theorem checks_eq (differ : other.DifferInKey world otherKey key) :
    checks other = checks world := by
  rw [checks, checks]
  obtain ⟨error, otherFailed, failed⟩ | ⟨settings, otherLoaded, loaded⟩ := differ.load_eq
  · rw [otherFailed, failed]
  · rw [otherLoaded, loaded]
    dsimp only
    rw [checkTemplate_withKey differ,
      checkBackend_withKey settings differ.notBlank differ.otherNotBlank]
    rfl

/-- In two worlds that differ in an API key only, which is not blank in either of them,
which the settings file does not ask for and which is shown alike, the listing of the
settings is the same, and so is the report of the check in either form together with its
exit code, whether settings can be loaded or not. -/
theorem output_eq_of_differInKey (differ : other.DifferInKey world otherKey key)
    (alike : AlikeKeys key otherKey) :
    list other = list world ∧ ∀ asJson, checkUp other asJson = checkUp world asJson := by
  refine ⟨?_, fun asJson => ?_⟩
  · rw [list, list, listing_eq differ alike]
  · rw [checkUp, checkUp, checks_eq differ]

/-- Settings with a key, below a file that asks for another variable. -/
def keyedWorld (key : String) : World where
  entries := [(["h2pc.toml"], .file (bytes "logging.level='$\x7bLEVEL\x7d'"))]
  environment := [
    (keyName, bytes key),
    ("LEVEL", bytes "warn"),
    ("MESSENGER_KIND", bytes "nats"),
    ("PROMPT_PATH", bytes "prompt.yaml"),
    ("OPENAI_MODEL_NAME", bytes "gpt-4o")]

/-- Of two keys for the same kind of project nothing is told but the kind. -/
theorem output_keyedWorlds :
    AlikeKeys "sk-proj-abc" " sk-test\n" ∧
      list (keyedWorld " sk-test\n") = list (keyedWorld "sk-proj-abc") ∧
      ∀ asJson, checkUp (keyedWorld " sk-test\n") asJson =
        checkUp (keyedWorld "sk-proj-abc") asJson := by
  have alike : AlikeKeys "sk-proj-abc" " sk-test\n" := by
    unfold AlikeKeys
    decide
  have given (key : String) : (keyedWorld key).variableText? keyName = some key :=
    ofBytes?_bytes key
  have same : (keyedWorld " sk-test\n").SameBut (keyedWorld "sk-proj-abc") keyName := by
    refine ⟨rfl, fun name differs => ?_⟩
    have apart : (name == keyName) = false := by simpa using differs
    simp [World.variableBytes?, keyedWorld, List.lookup_cons, apart]
  have notPutIn : ∀ text, fileText? (keyedWorld "sk-proj-abc") {} = some text →
      keyName ∉ interpolatedNames text := by
    have checked : (fileText? (keyedWorld "sk-proj-abc") {}).all
        (fun text => keyName ∉ interpolatedNames text) = true := by decide +kernel
    intro text standing
    simpa [standing] using checked
  have differ : (keyedWorld " sk-test\n").DifferInKey (keyedWorld "sk-proj-abc")
      " sk-test\n" "sk-proj-abc" :=
    { same, notPutIn
      given := given _
      otherGiven := given _
      notBlank := by decide
      otherNotBlank := by decide }
  exact ⟨alike, output_eq_of_differInKey differ alike⟩

end Command

end PromptRelay
