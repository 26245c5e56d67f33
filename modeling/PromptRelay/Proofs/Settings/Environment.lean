import PromptRelay.Proofs.Result
import PromptRelay.Proofs.Settings.Lookup
import PromptRelay.Proofs.Text.Trimming
import PromptRelay.Settings.Environment

/-!
Contract: the settings that the environment provides.

Owns:
- how the text given for a setting is read, and what blank text gives;
- the faults of the environment, in the order of the settings;
- that the layer of the environment has the value given for each setting, and fails
  with the first fault.

Does not own: which layers lie above and below it.
-/

namespace PromptRelay

open Text
open Result (bind_eq_ok_iff bind_eq_error_iff failure?)

/-! ## Values -/

/-- Reads the text given for a setting. -/
def Setting.ofText : (setting : Setting) → String → Except SettingsError setting.Value
  | .kind => fun text => (readKind text).mapError .invalid
  | .servers | .sources | .sinks => fun text => .ok (readItems text)
  | .sourceMinimum => readBy readCount? .sourceMinimum
  | .sourceMaximum => readBy readCount? .sourceMaximum
  | .sinkMinimum => readBy readCount? .sinkMinimum
  | .sinkMaximum => readBy readCount? .sinkMaximum
  | .verbose => readBy readSwitch? .verbose
  | .timeoutSeconds => readBy readCount? .timeoutSeconds
  | .logFormat => fun text => (readFormat text).mapError .invalid
  | .clientId | .groupId | .promptPath | .ollamaBaseUrl | .ollamaModelName | .openAiApiKey
  | .openAiBaseUrl | .openAiModelName | .logLevel => .ok

/-- What blank text gives: an empty list, but no scalar. -/
def Setting.ofBlank? : (setting : Setting) → Option setting.Value
  | .servers | .sources | .sinks => some []
  | _ => none

/-- The value that the environment gives for a setting, if it gives one. -/
def World.settingValue (world : World) (setting : Setting) :
    Except SettingsError (Option setting.Value) :=
  match world.settingText? setting with
  | none => .ok none
  | some text =>
    if isBlankText text then .ok setting.ofBlank? else (setting.ofText text).map some

/-- What is wrong with the text given for a setting. -/
def World.settingFault? (world : World) (setting : Setting) : Option SettingsError :=
  failure? (world.settingValue setting)

/-- All that is wrong with the environment, in the order of the settings. -/
def World.settingFaults (world : World) : List SettingsError :=
  Setting.all.filterMap world.settingFault?

/-! ## Blank lists -/

theorem trim_eq_nil_of_blank {cs : List Char} (blank : cs.all isBlank) : trim cs = [] :=
  (trim_eq_nil_iff cs).mpr (List.all_eq_true.mp blank)

/-- A comma is not blank, so blank text is a single item, which is dropped. -/
theorem readItems_of_blank {text : String} (blank : isBlankText text) : readItems text = [] := by
  have absent : ',' ∉ text.toList := by
    intro present
    have comma := List.all_eq_true.mp blank ',' present
    revert comma
    decide
  simp [readItems, listItems, split_eq_splitOn, List.splitOn_eq_singleton absent,
    trim_eq_nil_of_blank blank]

/-! ## Readers -/

theorem readBy_eq_ok_iff {read? : String → Option α} {setting : Setting} {text : String}
    {value : α} : readBy read? setting text = .ok value ↔ read? text = some value := by
  unfold readBy
  cases read? text <;> simp

theorem readBy_eq_error_iff {read? : String → Option α} {setting : Setting} {text : String}
    {error : SettingsError} :
    readBy read? setting text = .error error ↔
      read? text = none ∧ error = .unreadableVariable setting.variableName text := by
  unfold readBy
  cases read? text <;> simp [eq_comm]

section

variable (world : World)

theorem readScalar_eq (setting : Setting) (scalar : setting.ofBlank? = none) :
    readScalar world setting setting.ofText = world.settingValue setting := by
  unfold readScalar World.settingValue World.scalarText?
  cases world.settingText? setting with
  | none => rfl
  | some text => by_cases blank : isBlankText text <;> simp [Option.filter_some, blank, scalar]

/-- A text is read as it stands. -/
theorem readScalar_ok (setting : Setting) :
    readScalar world setting .ok = .ok (world.scalarText? setting) := by
  unfold readScalar
  cases world.scalarText? setting <;> rfl

theorem givenItems?_eq (setting : Setting) :
    (.ok (givenItems? world setting) : Except SettingsError (Option (List String))) =
      match world.settingText? setting with
      | none => .ok none
      | some text =>
        if isBlankText text then .ok (some []) else Except.map some (.ok (readItems text)) := by
  unfold givenItems?
  cases world.settingText? setting with
  | none => rfl
  | some text =>
      by_cases blank : isBlankText text
      · simp [blank, readItems_of_blank blank]
      · simp [blank, Except.map]

/-! ## Layers -/

/-- The settings whose texts may be unreadable. -/
def Setting.parsed : List Setting :=
  [.kind, .sourceMinimum, .sourceMaximum, .sinkMinimum, .sinkMaximum, .verbose, .timeoutSeconds,
    .logFormat]

theorem settingFault?_eq_none_of_total {setting : Setting}
    (total : ∀ text, ∃ value, setting.ofText text = .ok value) :
    world.settingFault? setting = none := by
  unfold World.settingFault? World.settingValue
  cases world.settingText? setting with
  | none => rfl
  | some text =>
      obtain ⟨value, read⟩ := total text
      by_cases blank : isBlankText text <;> simp [blank, read, Except.map]

theorem settingFaults_eq :
    world.settingFaults = Setting.parsed.filterMap world.settingFault? := by
  have total (setting : Setting) (notParsed : setting ∉ Setting.parsed) :
      world.settingFault? setting = none := by
    apply settingFault?_eq_none_of_total
    intro text
    revert notParsed
    cases setting <;> simp [Setting.parsed, Setting.ofText]
  simp [World.settingFaults, Setting.all, Setting.parsed, List.filterMap_cons, total]

variable {world}

theorem settingValue_of_readScalar {setting : Setting} {value : Option setting.Value}
    (scalar : setting.ofBlank? = none)
    (read : readScalar world setting setting.ofText = .ok value) :
    world.settingValue setting = .ok value :=
  (readScalar_eq world setting scalar).symm.trans read

/-- The layer of the environment has the value given for each setting. -/
theorem settingValue_of_ofEnvironment {layer : Layer}
    (gathered : Layer.ofEnvironment world = .ok layer) (setting : Setting) :
    world.settingValue setting = .ok (layer.get setting) := by
  obtain ⟨_, kind, gathered⟩ := bind_eq_ok_iff.mp gathered
  obtain ⟨_, sourceMinimum, gathered⟩ := bind_eq_ok_iff.mp gathered
  obtain ⟨_, sourceMaximum, gathered⟩ := bind_eq_ok_iff.mp gathered
  obtain ⟨_, sinkMinimum, gathered⟩ := bind_eq_ok_iff.mp gathered
  obtain ⟨_, sinkMaximum, gathered⟩ := bind_eq_ok_iff.mp gathered
  obtain ⟨_, verbose, gathered⟩ := bind_eq_ok_iff.mp gathered
  obtain ⟨_, timeoutSeconds, gathered⟩ := bind_eq_ok_iff.mp gathered
  obtain ⟨_, logFormat, gathered⟩ := bind_eq_ok_iff.mp gathered
  cases gathered
  cases setting
  case servers | sources | sinks => exact (givenItems?_eq world _).symm
  case kind => exact settingValue_of_readScalar rfl kind
  case sourceMinimum => exact settingValue_of_readScalar rfl sourceMinimum
  case sourceMaximum => exact settingValue_of_readScalar rfl sourceMaximum
  case sinkMinimum => exact settingValue_of_readScalar rfl sinkMinimum
  case sinkMaximum => exact settingValue_of_readScalar rfl sinkMaximum
  case verbose => exact settingValue_of_readScalar rfl verbose
  case timeoutSeconds => exact settingValue_of_readScalar rfl timeoutSeconds
  case logFormat => exact settingValue_of_readScalar rfl logFormat
  all_goals exact settingValue_of_readScalar rfl (readScalar_ok world _)

/-- A step that reads a setting fails with the fault of that setting, or what follows
fails with a later one. -/
theorem head?_faults_of_bind {setting : Setting} {rest : List Setting} {error : SettingsError}
    {next : Option setting.Value → Except SettingsError Layer}
    (failed : (readScalar world setting setting.ofText >>= next) = .error error)
    (scalar : setting.ofBlank? = none)
    (later : ∀ value, next value = .error error →
      (rest.filterMap world.settingFault?).head? = some error) :
    ((setting :: rest).filterMap world.settingFault?).head? = some error := by
  rw [readScalar_eq world setting scalar] at failed
  obtain unread | ⟨value, read, failed⟩ := bind_eq_error_iff.mp failed
  · have fault : world.settingFault? setting = some error := by
      simp [World.settingFault?, unread]
    rw [List.filterMap_cons_some fault, List.head?_cons]
  · have fine : world.settingFault? setting = none := by
      simp [World.settingFault?, read]
    rw [List.filterMap_cons_none fine]
    exact later value failed

/-- If the environment has no layer, then because of its first fault. -/
theorem head?_settingFaults_of_ofEnvironment {error : SettingsError}
    (failed : Layer.ofEnvironment world = .error error) :
    world.settingFaults.head? = some error := by
  rw [settingFaults_eq, Setting.parsed]
  -- One step for each setting that is parsed, in their order.
  iterate 8 refine head?_faults_of_bind failed rfl fun _ failed => ?_
  cases failed

theorem settingFaults_of_ofEnvironment {layer : Layer}
    (gathered : Layer.ofEnvironment world = .ok layer) : world.settingFaults = [] := by
  simp [World.settingFaults, World.settingFault?, settingValue_of_ofEnvironment gathered]

/-- The first fault is that of a setting, with none of an earlier one. -/
theorem head?_settingFaults_eq_some_iff {error : SettingsError} :
    world.settingFaults.head? = some error ↔
      ∃ earlier setting later, Setting.all = earlier ++ setting :: later ∧
        world.settingFault? setting = some error ∧
        ∀ other ∈ earlier, world.settingFault? other = none := by
  rw [World.settingFaults, List.head?_filterMap, List.findSome?_eq_some_iff]

end

end PromptRelay
