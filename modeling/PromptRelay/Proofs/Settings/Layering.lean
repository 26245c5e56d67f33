import PromptRelay.Proofs.Settings.Document
import PromptRelay.Proofs.Settings.Environment
import PromptRelay.Proofs.Settings.Interpolation
import PromptRelay.Settings.Load

/-!
Contract: which layer each setting comes from.

Owns:
- what the settings file says, and what is wrong with it;
- the faults of loading, in the order in which they are looked for;
- that settings are loaded if there are no faults, each with the value of the highest
  layer that provides it, and that the first fault is told otherwise;
- that one variable has a say in no setting but its own.

Does not own: the layers themselves, what they are to provide, and which settings are
acceptable.
-/

namespace PromptRelay

open Result (bind_eq_ok_iff bind_eq_error_iff mapError_eq_ok_iff mapError_eq_error_iff failure?)

/-! ## Values -/

/-- The text of the settings file as it stands, if there is one that can be read. -/
def fileText? (world : World) (options : LoadOptions) : Option String :=
  (settingsPath? world options.path).bind fun path => (world.readText path).toOption

/-- The text of the settings file with its variables put in. -/
def filledText? (world : World) (options : LoadOptions) : Option String :=
  (fileText? world options).bind fun text => (interpolate world.variableText? text).toOption

/-- What the path of a setting leads to in the settings file. -/
def writtenValue? (world : World) (options : LoadOptions) (setting : Setting) :
    Option Toml.Value :=
  ((filledText? world options).bind Toml.parse).bind (valueAt? [] setting.path)

/-- What the caller sets. -/
def LoadOptions.override? (options : LoadOptions) : (setting : Setting) → Option setting.Value
  | .promptPath => options.promptPath
  | _ => none

/-- The value of a setting in the highest layer that provides it: what the caller sets,
the environment, the file, the defaults. -/
def layered? (world : World) (options : LoadOptions) (setting : Setting) :
    Option setting.Value :=
  options.override? setting <|> (world.settingValue setting).toOption.join <|>
    (writtenValue? world options setting).bind setting.ofToml? <|> setting.default?

theorem layered?_eq_of_given {world : World} {options : LoadOptions} {setting : Setting}
    {given : Option setting.Value} (noOverride : options.override? setting = none)
    (environment : world.settingValue setting = .ok given) :
    layered? world options setting =
      (given <|> (writtenValue? world options setting).bind setting.ofToml? <|>
        setting.default?) := by
  rw [layered?, noOverride, environment]
  rfl

/-! ## Faults -/

/-- A file that has to be there is not, or the one that is there cannot be read. -/
def readingFault? (world : World) (options : LoadOptions) : Option SettingsError :=
  match settingsPath? world options.path with
  | some path => failure? ((world.readText path).mapError (.unreadableFile path))
  | none =>
    if options.isFileRequired then some (.missingFile (options.path.getD "h2pc.toml")) else none

/-- Variables cannot be put in. -/
def fillingFault? (world : World) (options : LoadOptions) : Option SettingsError :=
  (fileText? world options).bind fun text =>
    failure? ((interpolate world.variableText? text).mapError InterpolationError.toSettingsError)

/-- What is to be parsed is no settings file. -/
def parsingFault? (world : World) (options : LoadOptions) : Option SettingsError :=
  (settingsPath? world options.path).bind fun path =>
    (filledText? world options).bind fun text =>
      match (Toml.parse text).bind Layer.ofDocument? with
      | some _ => none
      | none => some (.malformedFile path)

def fileFaults (world : World) (options : LoadOptions) : List SettingsError :=
  (readingFault? world options).toList ++ (fillingFault? world options).toList ++
    (parsingFault? world options).toList

/-- All that is wrong before settings are validated, in the order in which it is looked
for. -/
def loadFaults (world : World) (options : LoadOptions) : List SettingsError :=
  fileFaults world options ++ world.settingFaults

/-! ## Layers -/

section

variable {world : World} {options : LoadOptions}

theorem Layer.get_caller (options : LoadOptions) (setting : Setting) :
    ({ promptPath := options.promptPath } : Layer).get setting = options.override? setting := by
  cases setting <;> rfl

/-- The stages of reading the file: its text, its variables, its document. -/
theorem ofFile_cases {path : String} (found : settingsPath? world options.path = some path) :
    (∃ layer, Layer.ofFile world path = .ok layer ∧ fileFaults world options = [] ∧
      ∀ setting, (layer.get setting).map some =
        (writtenValue? world options setting).map setting.ofToml?) ∨
    ∃ error, Layer.ofFile world path = .error error ∧
      (fileFaults world options).head? = some error := by
  -- A stage that fails leaves nothing to find fault with to those after it.
  cases rawRead : world.readText path with
  | error cause =>
      refine .inr ⟨.unreadableFile path cause, ?_, ?_⟩
      · simp [Layer.ofFile, rawRead]
      · simp [fileFaults, readingFault?, found, rawRead]
  | ok raw =>
      have readable : readingFault? world options = none := by
        simp [readingFault?, found, rawRead]
      have standing : fileText? world options = some raw := by
        simp [fileText?, found, rawRead, Except.toOption]
      cases filled : interpolate world.variableText? raw with
      | error cause =>
          refine .inr ⟨cause.toSettingsError, ?_, ?_⟩
          · simp [Layer.ofFile, rawRead, filled]
          · simp [fileFaults, readable, fillingFault?, standing, filled]
      | ok text =>
          have fillable : fillingFault? world options = none := by
            simp [fillingFault?, standing, filled]
          have filledText : filledText? world options = some text := by
            simp [filledText?, standing, filled, Except.toOption]
          cases parsed : (Toml.parse text).bind Layer.ofDocument? with
          | none =>
              refine .inr ⟨.malformedFile path, ?_, ?_⟩
              · simp [Layer.ofFile, rawRead, filled, parsed]
              · simp [fileFaults, readable, fillable, parsingFault?, found, filledText, parsed]
          | some layer =>
              obtain ⟨document, isDocument, read⟩ := Option.bind_eq_some_iff.mp parsed
              refine .inl ⟨layer, ?_, ?_, ?_⟩
              · simp [Layer.ofFile, rawRead, filled, parsed]
              · simp [fileFaults, readable, fillable, parsingFault?, found, filledText, parsed]
              · intro setting
                simpa [writtenValue?, filledText, isDocument, Setting.within?,
                  List.isPrefixOf?] using ofDocument?_reads read setting

/-- Either the file is sound, and its layer reads what is written for each setting, or
there is no layer because of its first fault. -/
theorem fileLayer_cases (world : World) (options : LoadOptions) :
    (∃ layer, fileLayer world options = .ok layer ∧ fileFaults world options = [] ∧
      ∀ setting, (layer.get setting).map some =
        (writtenValue? world options setting).map setting.ofToml?) ∨
    ∃ error, fileLayer world options = .error error ∧
      (fileFaults world options).head? = some error := by
  cases found : settingsPath? world options.path with
  | some path =>
      have sameLayer : fileLayer world options = Layer.ofFile world path := by
        simp only [fileLayer, found]
      rw [sameLayer]
      exact ofFile_cases found
  | none =>
      cases required : options.isFileRequired with
      | true =>
          refine .inr ⟨.missingFile (options.path.getD "h2pc.toml"), ?_, ?_⟩
          · simp [fileLayer, found, required]
          · simp [fileFaults, readingFault?, found, required]
      | false =>
          refine .inl ⟨{}, ?_, ?_, ?_⟩
          · simp [fileLayer, found, required]
          · simp [fileFaults, readingFault?, fillingFault?, parsingFault?, fileText?, found,
              required]
          · simp [writtenValue?, filledText?, fileText?, found, Layer.get_empty]

theorem fileFaults_eq_nil_iff :
    fileFaults world options = [] ↔ ∃ layer, fileLayer world options = .ok layer := by
  obtain ⟨layer, read, sound, _⟩ | ⟨error, failed, first⟩ := fileLayer_cases world options
  · simp [read, sound]
  · constructor
    · intro sound
      simp [sound] at first
    · rintro ⟨_, read⟩
      simp [failed] at read

/-- What is gathered has the value of the highest layer that provides it. -/
theorem gatherLayers_cases (world : World) (options : LoadOptions) :
    (∃ layer, gatherLayers world options = .ok layer ∧ loadFaults world options = [] ∧
      (∀ setting value, writtenValue? world options setting = some value →
        ∃ read, setting.ofToml? value = some read) ∧
      ∀ setting, layer.toSettings.get setting = layered? world options setting) ∨
    ∃ error, gatherLayers world options = .error error ∧
      (loadFaults world options).head? = some error := by
  obtain ⟨file, fileRead, fileSound, written⟩ | ⟨error, failed, first⟩ :=
    fileLayer_cases world options
  · cases gathered : Layer.ofEnvironment world with
    | error error =>
        have first := head?_settingFaults_of_ofEnvironment gathered
        exact .inr ⟨error, by simp [gatherLayers, fileRead, gathered],
          by simp [loadFaults, fileSound, first]⟩
    | ok environment =>
        refine .inl ⟨_, by simp only [gatherLayers, fileRead, gathered]; rfl, ?_, ?_, ?_⟩
        · simp [loadFaults, fileSound, settingFaults_of_ofEnvironment gathered]
        · intro setting value present
          have read := written setting
          rw [present] at read
          exact Option.map_eq_some_iff.mp read |>.imp fun _ provided => provided.2.symm
        · intro setting
          have inFile : file.get setting =
              (writtenValue? world options setting).bind setting.ofToml? := by
            have joined := congrArg Option.join (written setting)
            simpa [← Option.bind_id_eq_join, Option.bind_map] using joined
          have inEnvironment : environment.get setting =
              (world.settingValue setting).toOption.join := by
            rw [settingValue_of_ofEnvironment gathered setting]
            rfl
          rw [Layer.get_toSettings, Layer.get_above, Layer.get_above, Layer.get_caller, inFile,
            inEnvironment, layered?]
          simp [Option.or_assoc]
  · exact .inr ⟨error, by simp [gatherLayers, failed], by simp [loadFaults, first]⟩

/-- Nothing that a file without faults says of a setting is passed over. -/
theorem exists_ofToml?_of_sound {world : World} {options : LoadOptions}
    (sound : loadFaults world options = []) {setting : Setting} {written : Toml.Value}
    (stands : writtenValue? world options setting = some written) :
    ∃ value, setting.ofToml? written = some value := by
  obtain ⟨_, _, _, read, _⟩ | ⟨_, _, first⟩ := gatherLayers_cases world options
  · exact read setting written stands
  · simp [sound] at first

/-! ## Loading -/

/-- Either there are no faults, and settings with the layered values are validated, or
loading ends with the first fault. -/
theorem Settings.load_cases (world : World) (options : LoadOptions) :
    (∃ settings : Settings, loadFaults world options = [] ∧
      (∀ setting, settings.get setting = layered? world options setting) ∧
      Settings.load world options = do
        settings.validate.mapError .invalid
        .ok settings) ∨
    ∃ error, (loadFaults world options).head? = some error ∧
      Settings.load world options = .error error := by
  obtain ⟨layer, gathered, sound, _, values⟩ | ⟨error, failed, first⟩ :=
    gatherLayers_cases world options
  · exact .inl ⟨layer.toSettings, sound, values, by simp [Settings.load, gathered]⟩
  · exact .inr ⟨error, first, by simp [Settings.load, failed]⟩

theorem Settings.load_eq_ok_iff {settings : Settings} :
    Settings.load world options = .ok settings ↔
      loadFaults world options = [] ∧
      (∀ setting, settings.get setting = layered? world options setting) ∧
      settings.validate = .ok () := by
  obtain ⟨loaded, sound, values, course⟩ | ⟨error, first, failed⟩ :=
    Settings.load_cases world options
  · rw [course]
    constructor
    · intro accepted
      obtain ⟨_, valid, same⟩ := bind_eq_ok_iff.mp accepted
      cases same
      exact ⟨sound, values, mapError_eq_ok_iff.mp valid⟩
    · rintro ⟨_, sameValues, valid⟩
      have same : settings = loaded :=
        Settings.eq_of_get fun setting => (sameValues setting).trans (values setting).symm
      subst same
      rw [mapError_eq_ok_iff.mpr valid]
      rfl
  · constructor
    · simp [failed]
    · rintro ⟨sound, _⟩
      simp [sound] at first

theorem Settings.load_eq_error_iff {error : SettingsError} :
    Settings.load world options = .error error ↔
      (loadFaults world options).head? = some error ∨
      loadFaults world options = [] ∧ ∃ (settings : Settings) (violation : Violation),
        (∀ setting, settings.get setting = layered? world options setting) ∧
        settings.validate = .error violation ∧ error = .invalid violation := by
  obtain ⟨loaded, sound, values, course⟩ | ⟨fault, first, failed⟩ :=
    Settings.load_cases world options
  · rw [course, sound]
    constructor
    · intro rejected
      obtain invalid | ⟨_, _, impossible⟩ := bind_eq_error_iff.mp rejected
      · obtain ⟨violation, invalid, same⟩ := mapError_eq_error_iff.mp invalid
        exact .inr ⟨rfl, loaded, violation, values, invalid, same⟩
      · cases impossible
    · rintro (impossible | ⟨_, settings, violation, sameValues, invalid, same⟩)
      · cases impossible
      · have sameSettings : settings = loaded :=
          Settings.eq_of_get fun setting => (sameValues setting).trans (values setting).symm
        subst sameSettings
        rw [mapError_eq_error_iff.mpr ⟨violation, invalid, same⟩]
        rfl
  · rw [failed, first]
    constructor
    · rintro ⟨⟩
      exact .inl rfl
    · rintro (same | ⟨sound, _⟩)
      · rw [Option.some.inj same]
      · simp [sound] at first

end

/-! ## Independence -/

/-- The key is one of the two names of the variable of a setting. -/
def Setting.IsNamedBy (setting : Setting) (key : String) : Prop :=
  key ∈ [setting.variableName, setting.smallVariableName]

theorem Setting.eq_of_isNamedBy {setting other : Setting} {key : String}
    (named : setting.IsNamedBy key) (otherNamed : other.IsNamedBy key) : setting = other := by
  -- All forty names are different.
  have distinct : ∀ setting ∈ all, ∀ other ∈ all,
      ∀ key ∈ [setting.variableName, setting.smallVariableName],
        key ∈ [other.variableName, other.smallVariableName] → setting = other := by
    decide +kernel
  exact distinct setting setting.mem_all other other.mem_all key named otherNamed

/-- The worlds differ in the value of that variable at most. -/
structure World.SameBut (other world : World) (key : String) : Prop where
  files : other.toFiles = world.toFiles
  others : ∀ name, name ≠ key → other.variableBytes? name = world.variableBytes? name

section

variable {world other : World} {key : String} {options : LoadOptions}

theorem World.SameBut.variableText?_eq (same : other.SameBut world key) {name : String}
    (differs : name ≠ key) : other.variableText? name = world.variableText? name := by
  rw [World.variableText?, World.variableText?, same.others name differs]

theorem World.SameBut.settingValue_eq (same : other.SameBut world key) {setting : Setting}
    (notNamed : ¬ setting.IsNamedBy key) :
    other.settingValue setting = world.settingValue setting := by
  simp only [Setting.IsNamedBy, List.mem_cons, List.not_mem_nil, or_false, not_or] at notNamed
  have sameText : other.settingText? setting = world.settingText? setting := by
    rw [World.settingText?, World.settingText?, same.variableText?_eq (Ne.symm notNamed.1),
      same.variableText?_eq (Ne.symm notNamed.2)]
  rw [World.settingValue, World.settingValue, sameText]

theorem World.SameBut.fileText?_eq (same : other.SameBut world key) (options : LoadOptions) :
    fileText? other options = fileText? world options := by
  simp only [fileText?, settingsPath?, same.files]

theorem World.SameBut.writtenValue?_eq (same : other.SameBut world key)
    (notPutIn : ∀ text, fileText? world options = some text → key ∉ interpolatedNames text)
    (setting : Setting) :
    writtenValue? other options setting = writtenValue? world options setting := by
  have sameFilled : filledText? other options = filledText? world options := by
    rw [filledText?, filledText?, same.fileText?_eq]
    cases standing : fileText? world options with
    | none => rfl
    | some text =>
        have sameText := interpolate_congr fun name asked =>
          same.variableText?_eq (fun isKey : name = key => notPutIn text standing (isKey ▸ asked))
        simp [sameText]
  rw [writtenValue?, writtenValue?, sameFilled]

/-- A variable that the file does not ask for has a say in no setting but its own. -/
theorem World.SameBut.layered?_eq (same : other.SameBut world key)
    (notPutIn : ∀ text, fileText? world options = some text → key ∉ interpolatedNames text)
    {setting : Setting} (notNamed : ¬ setting.IsNamedBy key) :
    layered? other options setting = layered? world options setting := by
  rw [layered?, layered?, same.settingValue_eq notNamed,
    same.writtenValue?_eq notPutIn]

end

end PromptRelay
