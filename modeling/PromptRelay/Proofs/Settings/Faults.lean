import PromptRelay.Proofs.Settings.Layering

/-!
Contract: when loading fails because of a variable that cannot be read.

Owns:
- that a variable that cannot be read is told by the name of its setting;
- that loading fails with such a variable if and only if it comes to it, and the variable cannot
  be read.

Does not own: which texts can be read.
-/

namespace PromptRelay

open Result (failure?_eq_some_iff mapError_eq_error_iff)

/-- Loading comes to the variable of a setting: neither the settings file nor a variable that is
read earlier makes it fail. -/
structure Setting.IsReached (setting : Setting) (world : World) (options : LoadOptions) : Prop where
  file : ∃ layer, fileLayer world options = .ok layer
  others : ∃ earlier later, Setting.all = earlier ++ setting :: later ∧
    ∀ other ∈ earlier, world.settingFault? other = none

section

variable {world : World} {options : LoadOptions}

/-- No fault of the settings file tells of a variable that cannot be read. -/
theorem unreadable_notMem_fileFaults (name text : String) :
    SettingsError.unreadableVariable name text ∉ fileFaults world options := by
  intro member
  simp only [fileFaults, List.mem_append, Option.mem_toList] at member
  rcases member with (reading | filling) | parsing
  · unfold readingFault? at reading
    split at reading
    case h_1 path _ => cases read : world.readText path <;> simp [read] at reading
    case h_2 => split at reading <;> cases reading
  · obtain ⟨raw, _, failed⟩ := Option.bind_eq_some_iff.mp filling
    cases filled : interpolate world.variableText? raw with
    | ok text => simp [filled] at failed
    | error cause => cases cause <;> simp [filled, InterpolationError.toSettingsError] at failed
  · obtain ⟨path, _, parsing⟩ := Option.bind_eq_some_iff.mp parsing
    obtain ⟨filled, _, failed⟩ := Option.bind_eq_some_iff.mp parsing
    split at failed <;> cases failed

theorem name_of_ofText {setting : Setting} {given name text : String}
    (failed : setting.ofText given = .error (.unreadableVariable name text)) :
    name = setting.variableName := by
  cases setting
  case kind | logFormat =>
    rw [Setting.ofText, mapError_eq_error_iff] at failed
    obtain ⟨_, _, impossible⟩ := failed
    cases impossible
  case sourceMinimum | sourceMaximum | sinkMinimum | sinkMaximum | verbose | timeoutSeconds =>
    rw [Setting.ofText, readBy_eq_error_iff] at failed
    exact (SettingsError.unreadableVariable.inj failed.2).1
  all_goals cases failed

theorem name_of_settingFault? {setting : Setting} {name text : String}
    (fault : world.settingFault? setting = some (.unreadableVariable name text)) :
    name = setting.variableName := by
  rw [World.settingFault?, failure?_eq_some_iff, World.settingValue] at fault
  split at fault
  case h_1 => cases fault
  case h_2 given _ =>
    split at fault
    case isTrue => cases fault
    case isFalse =>
      cases read : setting.ofText given with
      | ok _ =>
          rw [read] at fault
          cases fault
      | error _ =>
          rw [read] at fault
          cases fault
          exact name_of_ofText read

/-- Loading fails because of a variable that cannot be read if and only if it comes to it. -/
theorem Settings.load_eq_unreadable_iff {setting : Setting} {text : String} :
    Settings.load world options = .error (.unreadableVariable setting.variableName text) ↔
      setting.IsReached world options ∧
      world.settingFault? setting = some (.unreadableVariable setting.variableName text) := by
  rw [Settings.load_eq_error_iff]
  constructor
  · rintro (first | ⟨_, _, _, _, _, impossible⟩)
    · rw [loadFaults] at first
      cases sound : fileFaults world options with
      | cons fault faults =>
          rw [sound, List.cons_append, List.head?_cons] at first
          have member : fault ∈ fileFaults world options := sound ▸ List.mem_cons_self
          rw [Option.some.inj first] at member
          exact absurd member (unreadable_notMem_fileFaults _ _)
      | nil =>
          rw [sound, List.nil_append, head?_settingFaults_eq_some_iff] at first
          obtain ⟨earlier, other, later, parted, fault, fine⟩ := first
          have named : other.IsNamedBy setting.variableName := by
            rw [name_of_settingFault? fault]
            exact List.mem_cons_self
          have same : setting = other := Setting.eq_of_isNamedBy List.mem_cons_self named
          subst same
          exact ⟨⟨fileFaults_eq_nil_iff.mp sound, earlier, later, parted, fine⟩, fault⟩
    · cases impossible
  · rintro ⟨⟨file, earlier, later, parted, fine⟩, fault⟩
    have first := head?_settingFaults_eq_some_iff.mpr ⟨earlier, setting, later, parted, fault, fine⟩
    rw [loadFaults, fileFaults_eq_nil_iff.mpr file]
    exact .inl first

end

end PromptRelay
