import PromptRelay.Proofs.Settings.Layering
import PromptRelay.Proofs.Settings.Provision

/-!
Contract: what loading makes of the settings file and of the environment.

Owns:
- what the settings file is to provide for a setting, and its fault;
- the value of a setting in the highest layer that provides it;
- that loading gives these values, and that it fails with the first fault or with the rule that
  the values violate.

Does not own: what the environment is to provide, and which settings are acceptable.

All layers and faults are stated by what stands in the file and in the variables, without the
functions that read them.
-/

namespace PromptRelay

open Result (bind_eq_error_iff mapError_eq_ok_iff mapError_eq_error_iff toOption_eq_some_iff
  exists_eq_ok_of_isOk)

/-! ## The settings file -/

/-- The file that settings are read from: the named one, else the first usual one. -/
inductive IsSettingsFile (world : World) (options : LoadOptions) : String → Prop where
  | named {path : String} (isNamed : options.path = some path) (isThere : world.contains path) :
      IsSettingsFile world options path
  | usual (notNamed : options.path = none) (isThere : world.contains "h2pc.toml") :
      IsSettingsFile world options "h2pc.toml"
  | nested (notNamed : options.path = none) (notUsual : ¬ world.contains "h2pc.toml")
      (isThere : world.contains "config/h2pc.toml") :
      IsSettingsFile world options "config/h2pc.toml"

/-- The text that stands in the settings file. -/
def HasRawText (world : World) (options : LoadOptions) (raw : String) : Prop :=
  ∃ path, IsSettingsFile world options path ∧ world.readText path = .ok raw

/-- The same with the variables put in. -/
def HasText (world : World) (options : LoadOptions) (text : String) : Prop :=
  ∃ raw, HasRawText world options raw ∧ interpolate world.variableText? raw = .ok text

/-- What the settings file provides for a setting: nothing, or the value that is written at its
path. -/
inductive FileProvides (world : World) (options : LoadOptions) (setting : Setting) :
    Option setting.Value → Prop where
  | nothing (unwritten : ∀ text document, HasText world options text →
      Toml.parse text = some document → valueAt? [] setting.path document = none) :
      FileProvides world options setting none
  | value {text : String} {document written : Toml.Value} {value : setting.Value}
      (stands : HasText world options text) (parsed : Toml.parse text = some document)
      (reached : valueAt? [] setting.path document = some written)
      (isWritten : setting.IsWrittenAs written value) :
      FileProvides world options setting (some value)

/-- What is wrong with the settings file. Each stage takes that those before it succeed. -/
inductive FileFault (world : World) (options : LoadOptions) : SettingsError → Prop where
  | missing (notFound : ∀ path, ¬ IsSettingsFile world options path)
      (isRequired : options.isFileRequired) :
      FileFault world options (.missingFile (options.path.getD "h2pc.toml"))
  | unreadable {path : String} {cause : ReadError} (found : IsSettingsFile world options path)
      (failed : world.readText path = .error cause) :
      FileFault world options (.unreadableFile path cause)
  | unset {raw name : String} (stands : HasRawText world options raw)
      (failed : interpolate world.variableText? raw = .error (.missing name)) :
      FileFault world options (.missingVariable name)
  | unterminated {raw : String} (stands : HasRawText world options raw)
      (failed : interpolate world.variableText? raw = .error .unterminated) :
      FileFault world options .unterminatedExpression
  | malformed {path text : String} (found : IsSettingsFile world options path)
      (filled : HasText world options text)
      (formless : ∀ document, Toml.parse text = some document → ¬ HasForm [] document) :
      FileFault world options (.malformedFile path)

section

variable {world : World} {options : LoadOptions}

theorem settingsPath?_eq_some_iff {path : String} :
    settingsPath? world options.path = some path ↔ IsSettingsFile world options path := by
  constructor
  · intro found
    unfold settingsPath? at found
    split at found
    case h_1 named isNamed =>
      obtain ⟨isThere, same⟩ := Option.ite_none_right_eq_some.mp found
      cases same
      exact .named isNamed isThere
    case h_2 notNamed =>
      rw [usualPaths, List.find?_cons] at found
      cases isUsual : world.contains "h2pc.toml" with
      | true =>
          rw [isUsual] at found
          cases found
          exact .usual notNamed isUsual
      | false =>
          rw [isUsual] at found
          have isThere := List.find?_some found
          cases List.mem_singleton.mp (List.mem_of_find?_eq_some found)
          exact .nested notNamed (by simp [isUsual]) isThere
  · rintro (⟨isNamed, isThere⟩ | ⟨notNamed, isThere⟩ | ⟨notNamed, notUsual, isThere⟩)
    · simp [settingsPath?, isNamed, isThere]
    · simp [settingsPath?, notNamed, usualPaths, isThere]
    · simp [settingsPath?, notNamed, usualPaths, notUsual, isThere]

theorem fileText?_eq_some_iff {raw : String} :
    fileText? world options = some raw ↔ HasRawText world options raw := by
  simp only [fileText?, Option.bind_eq_some_iff, toOption_eq_some_iff, settingsPath?_eq_some_iff,
    HasRawText]

theorem filledText?_eq_some_iff {text : String} :
    filledText? world options = some text ↔ HasText world options text := by
  simp only [filledText?, Option.bind_eq_some_iff, toOption_eq_some_iff, fileText?_eq_some_iff,
    HasText]

/-- A text is no settings file if and only if no document with the form of settings is
parsed from it. -/
theorem formless_iff {text : String} :
    (Toml.parse text).bind Layer.ofDocument? = none ↔
      ∀ document, Toml.parse text = some document → ¬ HasForm [] document := by
  simp only [Option.bind_eq_none_iff, ← ofDocument?_isSome_iff, Option.not_isSome_iff_eq_none]

theorem fileFault_of_ofFile {path : String} (found : IsSettingsFile world options path)
    {error : SettingsError} (failed : Layer.ofFile world path = .error error) :
    FileFault world options error := by
  obtain unread | ⟨raw, read, failed⟩ := bind_eq_error_iff.mp failed
  · obtain ⟨cause, isCause, rfl⟩ := mapError_eq_error_iff.mp unread
    exact .unreadable found isCause
  have stands : HasRawText world options raw := ⟨path, found, mapError_eq_ok_iff.mp read⟩
  obtain unfilled | ⟨text, filled, failed⟩ := bind_eq_error_iff.mp failed
  · obtain ⟨cause, isCause, rfl⟩ := mapError_eq_error_iff.mp unfilled
    cases cause with
    | missing name => exact .unset stands isCause
    | unterminated => exact .unterminated stands isCause
  have isFilled : HasText world options text := ⟨raw, stands, mapError_eq_ok_iff.mp filled⟩
  split at failed
  case h_1 => cases failed
  case h_2 noLayer =>
    cases failed
    exact .malformed found isFilled (formless_iff.mp noLayer)

theorem fileLayer_of_isSettingsFile {path : String} (found : IsSettingsFile world options path) :
    fileLayer world options = Layer.ofFile world path := by
  rw [fileLayer, settingsPath?_eq_some_iff.mpr found]

theorem HasRawText.fileLayer_eq {raw : String} {cause : InterpolationError}
    (stands : HasRawText world options raw)
    (failed : interpolate world.variableText? raw = .error cause) :
    fileLayer world options = .error cause.toSettingsError := by
  obtain ⟨path, found, read⟩ := stands
  simp [fileLayer_of_isSettingsFile found, Layer.ofFile, read, failed]

theorem FileFault.fileLayer_eq {error : SettingsError} (fault : FileFault world options error) :
    fileLayer world options = .error error := by
  cases fault with
  | missing notFound isRequired =>
      have nowhere : settingsPath? world options.path = none := by
        simpa only [Option.eq_none_iff_forall_ne_some, ne_eq, settingsPath?_eq_some_iff]
          using notFound
      simp [fileLayer, nowhere, isRequired]
  | unreadable found failed => simp [fileLayer_of_isSettingsFile found, Layer.ofFile, failed]
  | unset stands failed => exact stands.fileLayer_eq failed
  | unterminated stands failed => exact stands.fileLayer_eq failed
  | malformed found filled formless =>
      obtain ⟨raw, ⟨path, sameFound, read⟩, filled⟩ := filled
      cases (settingsPath?_eq_some_iff.mpr found).symm.trans
        (settingsPath?_eq_some_iff.mpr sameFound)
      simp [fileLayer_of_isSettingsFile found, Layer.ofFile, read, filled,
        formless_iff.mpr formless]

theorem fileLayer_eq_error_iff {error : SettingsError} :
    fileLayer world options = .error error ↔ FileFault world options error := by
  refine ⟨fun failed => ?_, FileFault.fileLayer_eq⟩
  unfold fileLayer at failed
  split at failed
  case h_1 path found => exact fileFault_of_ofFile (settingsPath?_eq_some_iff.mp found) failed
  case h_2 nowhere =>
    split at failed
    case isTrue isRequired =>
      cases failed
      refine .missing (fun path found => ?_) isRequired
      rw [settingsPath?_eq_some_iff.mpr found] at nowhere
      cases nowhere
    case isFalse => cases failed

theorem writtenValue?_eq_some_iff {setting : Setting} {written : Toml.Value} :
    writtenValue? world options setting = some written ↔
      ∃ text document, HasText world options text ∧ Toml.parse text = some document ∧
        valueAt? [] setting.path document = some written := by
  simp only [writtenValue?, Option.bind_eq_some_iff, filledText?_eq_some_iff]
  constructor
  · rintro ⟨document, ⟨text, stands, parsed⟩, reached⟩
    exact ⟨text, document, stands, parsed, reached⟩
  · rintro ⟨text, document, stands, parsed, reached⟩
    exact ⟨document, ⟨text, stands, parsed⟩, reached⟩

end

/-! ## Layers -/

/-- The value of a setting in the highest layer that provides it: what the caller sets, the
environment, the settings file, and the default, which some settings do not have. -/
inductive IsLayered (world : World) (options : LoadOptions) (setting : Setting) :
    Option setting.Value → Prop where
  | caller {value : setting.Value} (overrides : options.override? setting = some value) :
      IsLayered world options setting (some value)
  | environment {value : setting.Value} (notOverridden : options.override? setting = none)
      (inEnvironment : world.Provides setting (some value)) :
      IsLayered world options setting (some value)
  | file {value : setting.Value} (notOverridden : options.override? setting = none)
      (notInEnvironment : world.Provides setting none)
      (inFile : FileProvides world options setting (some value)) :
      IsLayered world options setting (some value)
  | default (notOverridden : options.override? setting = none)
      (notInEnvironment : world.Provides setting none)
      (notInFile : FileProvides world options setting none) :
      IsLayered world options setting setting.default?

/-- Nothing is wrong with the settings file, and the environment is refused for no setting. -/
structure IsSound (world : World) (options : LoadOptions) : Prop where
  file : ∀ error, ¬ FileFault world options error
  environment : ∀ setting error, ¬ world.IsRefusedFor setting error

/-- The first thing that is wrong: with the settings file, else with the variable of a setting,
where neither the file nor the variable of an earlier setting is at fault. -/
inductive FirstFault (world : World) (options : LoadOptions) (error : SettingsError) : Prop where
  | file (fault : FileFault world options error)
  | environment {earlier later : List Setting} {setting : Setting}
      (fileSound : ∀ other, ¬ FileFault world options other)
      (order : Setting.all = earlier ++ setting :: later)
      (earlierSound : ∀ before ∈ earlier, ∀ other, ¬ world.IsRefusedFor before other)
      (isRefused : world.IsRefusedFor setting error)

section

variable {world : World} {options : LoadOptions}

theorem fileFaults_eq_nil_iff_forall :
    fileFaults world options = [] ↔ ∀ error, ¬ FileFault world options error := by
  simp only [fileFaults_eq_nil_iff, ← fileLayer_eq_error_iff]
  cases fileLayer world options <;> simp

theorem settingFault?_eq_none_iff {setting : Setting} :
    world.settingFault? setting = none ↔ ∀ error, ¬ world.IsRefusedFor setting error := by
  simp only [Option.eq_none_iff_forall_ne_some, ne_eq, settingFault?_eq_some_iff]

theorem loadFaults_eq_nil_iff : loadFaults world options = [] ↔ IsSound world options := by
  rw [loadFaults, List.append_eq_nil_iff, fileFaults_eq_nil_iff_forall, World.settingFaults,
    List.filterMap_eq_nil_iff]
  simp only [Setting.mem_all, forall_const, settingFault?_eq_none_iff]
  exact ⟨fun sound => ⟨sound.1, sound.2⟩, fun sound => ⟨sound.file, sound.environment⟩⟩

theorem head?_loadFaults_eq_some_iff {error : SettingsError} :
    (loadFaults world options).head? = some error ↔ FirstFault world options error := by
  rw [loadFaults]
  obtain ⟨layer, read, sound, _⟩ | ⟨fault, failed, first⟩ := fileLayer_cases world options
  · have fileSound := fileFaults_eq_nil_iff_forall.mp sound
    rw [sound, List.nil_append, head?_settingFaults_eq_some_iff]
    simp only [settingFault?_eq_some_iff, settingFault?_eq_none_iff]
    constructor
    · rintro ⟨earlier, setting, later, order, isRefused, earlierSound⟩
      exact .environment fileSound order earlierSound isRefused
    · rintro (fault | ⟨_, order, earlierSound, isRefused⟩)
      · exact absurd fault (fileSound error)
      · exact ⟨_, _, _, order, isRefused, earlierSound⟩
  · have isFault := fileLayer_eq_error_iff.mp failed
    rw [List.head?_append, first, Option.some_or]
    constructor
    · rintro ⟨⟩
      exact .file isFault
    · rintro (other | ⟨fileSound, _⟩)
      · rw [Except.error.inj (failed.symm.trans other.fileLayer_eq)]
      · exact absurd isFault (fileSound fault)

/-- Where nothing is wrong with the settings file, it provides what is read from it. -/
theorem fileProvides_of_sound (sound : loadFaults world options = []) (setting : Setting) :
    FileProvides world options setting
      ((writtenValue? world options setting).bind setting.ofToml?) := by
  cases isWritten : writtenValue? world options setting with
  | none =>
      refine .nothing fun text document stands parsed => ?_
      by_contra reached
      obtain ⟨written, reached⟩ := Option.ne_none_iff_exists'.mp reached
      rw [writtenValue?_eq_some_iff.mpr ⟨text, document, stands, parsed, reached⟩] at isWritten
      cases isWritten
  | some written =>
      obtain ⟨text, document, stands, parsed, reached⟩ := writtenValue?_eq_some_iff.mp isWritten
      obtain ⟨value, read⟩ := exists_ofToml?_of_sound sound isWritten
      rw [Option.bind_some, read]
      exact .value stands parsed reached (ofToml?_eq_some_iff.mp read)

theorem FileProvides.eq {setting : Setting} {value : Option setting.Value}
    (provides : FileProvides world options setting value) :
    value = (writtenValue? world options setting).bind setting.ofToml? := by
  cases provides with
  | nothing unwritten =>
      cases isWritten : writtenValue? world options setting with
      | none => rfl
      | some written =>
          obtain ⟨text, document, stands, parsed, reached⟩ :=
            writtenValue?_eq_some_iff.mp isWritten
          rw [unwritten text document stands parsed] at reached
          cases reached
  | value stands parsed reached isWritten =>
      rw [writtenValue?_eq_some_iff.mpr ⟨_, _, stands, parsed, reached⟩, Option.bind_some,
        ofToml?_eq_some_iff.mpr isWritten]

theorem IsLayered.eq {setting : Setting} {value : Option setting.Value}
    (isLayered : IsLayered world options setting value) :
    value = layered? world options setting := by
  cases isLayered with
  | caller overrides =>
      rw [layered?, overrides]
      rfl
  | environment notOverridden inEnvironment =>
      rw [layered?_eq_of_given notOverridden inEnvironment.settingValue_eq]
      rfl
  | file notOverridden notInEnvironment inFile =>
      rw [layered?_eq_of_given notOverridden notInEnvironment.settingValue_eq, ← inFile.eq]
      rfl
  | default notOverridden notInEnvironment notInFile =>
      rw [layered?_eq_of_given notOverridden notInEnvironment.settingValue_eq, ← notInFile.eq]
      rfl

theorem isLayered_layered? (sound : loadFaults world options = []) (setting : Setting) :
    IsLayered world options setting (layered? world options setting) := by
  have inFile := fileProvides_of_sound sound setting
  obtain ⟨given, read, provides⟩ | ⟨error, _, isRefused⟩ := settingValue_cases world setting
  · cases overrides : options.override? setting with
    | some value =>
        rw [layered?, overrides]
        exact .caller overrides
    | none =>
        rw [layered?_eq_of_given overrides read]
        cases given with
        | some value => exact .environment overrides provides
        | none =>
            cases written : (writtenValue? world options setting).bind setting.ofToml? with
            | some value =>
                rw [written] at inFile
                exact .file overrides provides inFile
            | none =>
                rw [written] at inFile
                exact .default overrides provides inFile
  · exact absurd isRefused ((loadFaults_eq_nil_iff.mp sound).environment setting error)

theorem isLayered_iff (sound : loadFaults world options = []) {setting : Setting}
    {value : Option setting.Value} :
    IsLayered world options setting value ↔ value = layered? world options setting := by
  refine ⟨IsLayered.eq, ?_⟩
  rintro rfl
  exact isLayered_layered? sound setting

end

/-! ## Summary -/

/-- Settings are loaded if and only if nothing is wrong with the settings file or with a
variable, each has the value of the highest layer that provides it, and they are valid. Loading
fails with the first fault: a file that is missing or cannot be read, variables that cannot be
put in, a file that does not parse, and then the variables in the order of the settings. If there
is none, it fails with the rule that the settings so layered violate. If one variable changes that
the file does not ask for, and settings can be loaded before and after, then they differ at most
in the one setting it is named for. -/
theorem Settings.load_layering (world : World) (options : LoadOptions) :
    (∀ settings, Settings.load world options = .ok settings ↔
      IsSound world options ∧
      (∀ setting, IsLayered world options setting (settings.get setting)) ∧
      settings.validate = .ok ()) ∧
    (∀ error, Settings.load world options = .error error ↔
      FirstFault world options error ∨
      IsSound world options ∧ ∃ (settings : Settings) (violation : Violation),
        (∀ setting, IsLayered world options setting (settings.get setting)) ∧
        settings.validate = .error violation ∧ error = .invalid violation) ∧
    ∀ other key, other.SameBut world key →
      (∀ raw, HasRawText world options raw → key ∉ interpolatedNames raw) →
      ∀ settings changed, Settings.load world options = .ok settings →
        Settings.load other options = .ok changed →
        (∀ setting, ¬ setting.IsNamedBy key → changed.get setting = settings.get setting) ∧
        ∀ own another : Setting, own.IsNamedBy key → another.IsNamedBy key → own = another := by
  refine ⟨fun settings => ?_, fun error => ?_, ?_⟩
  · rw [load_eq_ok_iff, ← loadFaults_eq_nil_iff]
    refine and_congr_right fun sound => ?_
    simp only [isLayered_iff sound]
  · rw [load_eq_error_iff, head?_loadFaults_eq_some_iff, ← loadFaults_eq_nil_iff]
    refine or_congr_right (and_congr_right fun sound => ?_)
    simp only [isLayered_iff sound]
  · intro other key same notPutIn settings changed loaded reloaded
    refine ⟨fun setting notNamed => ?_, fun _ _ => Setting.eq_of_isNamedBy⟩
    have before := (load_eq_ok_iff.mp loaded).2.1 setting
    have after := (load_eq_ok_iff.mp reloaded).2.1 setting
    rw [before, after, same.layered?_eq (fun raw stands => notPutIn raw
      (fileText?_eq_some_iff.mp stands)) notNamed]

/-- A settings file below some variables, one of which it asks for. -/
def layeredWorld : World where
  entries := [(["h2pc.toml"], .file (Text.bytes "logging.level='$\x7bLEVEL\x7d'"))]
  environment := [
    ("LEVEL", Text.bytes "warn"),
    ("MESSENGER_KIND", Text.bytes "nats"),
    ("PROMPT_PATH", Text.bytes "prompt.yaml"),
    ("OLLAMA_BASE_URL", Text.bytes "http://localhost:11434"),
    ("OLLAMA_MODEL_NAME", Text.bytes "llama3")]

/-- The same with one more variable. -/
def verboseWorld : World :=
  { layeredWorld with environment := ("VERBOSE", Text.bytes "yes") :: layeredWorld.environment }

/-- The variable for verbosity changes nothing but that. -/
theorem Settings.load_verboseWorld :
    ∃ settings changed, Settings.load layeredWorld {} = .ok settings ∧
      Settings.load verboseWorld {} = .ok changed ∧
      ∀ setting, ¬ setting.IsNamedBy "VERBOSE" → changed.get setting = settings.get setting := by
  have same : verboseWorld.SameBut layeredWorld "VERBOSE" := by
    refine ⟨rfl, fun name differs => ?_⟩
    have apart : (name == "VERBOSE") = false := by simpa using differs
    simp [World.variableBytes?, verboseWorld, List.lookup_cons, apart]
  have notPutIn : ∀ raw, HasRawText layeredWorld {} raw →
      "VERBOSE" ∉ interpolatedNames raw := by
    have checked : (fileText? layeredWorld {}).all
        (fun raw => "VERBOSE" ∉ interpolatedNames raw) = true := by decide +kernel
    intro raw stands
    simpa [fileText?_eq_some_iff.mpr stands] using checked
  have loads : (Settings.load layeredWorld {}).isOk = true := by decide +kernel
  have reloads : (Settings.load verboseWorld {}).isOk = true := by decide +kernel
  obtain ⟨settings, loaded⟩ := exists_eq_ok_of_isOk loads
  obtain ⟨changed, reloaded⟩ := exists_eq_ok_of_isOk reloads
  have summary := (Settings.load_layering layeredWorld {}).2.2 verboseWorld "VERBOSE" same
    notPutIn settings changed loaded reloaded
  exact ⟨settings, changed, loaded, reloaded, summary.1⟩

end PromptRelay
