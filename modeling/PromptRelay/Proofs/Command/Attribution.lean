import PromptRelay.Command.Listing
import PromptRelay.Proofs.Settings.Loading

/-!
Contract: whether the listing tells where the settings come from.

Owns:
- the layer that loading takes the value of a setting from;
- when the origin that is shown is that layer, and when it is another.

Does not own: the values that are shown.

The listing looks at the variables and at the file a second time, and by rules of its own:
a variable counts as soon as it is set, and the file counts as it is written, before its
expressions are replaced. Both rules differ from those of loading.
-/

namespace PromptRelay

/-! ## Names -/

/-- The names under which a setting may be set, in the order in which they are tried. -/
def Setting.names (setting : Setting) : List String :=
  [setting.variableName, setting.smallVariableName]

theorem Setting.find?_names (setting : Setting) (p : String → Bool) :
    setting.names.find? p =
      if p setting.variableName then some setting.variableName
      else if p setting.smallVariableName then some setting.smallVariableName
      else none := by
  rw [names, List.find?_cons, List.find?_cons, List.find?_nil]
  cases p setting.variableName <;> cases p setting.smallVariableName <;> rfl

/-- The name of the first variable for a setting that is set. -/
def World.setName? (world : World) (setting : Setting) : Option String :=
  setting.names.find? fun name => (world.variableBytes? name).isSome

/-- The name of the first variable for a setting that is set to text. -/
def World.readName? (world : World) (setting : Setting) : Option String :=
  setting.names.find? fun name => (world.variableText? name).isSome

namespace World

variable {world : World} {setting : Setting} {name text : String}

theorem variableText?_of_unset (unset : world.variableBytes? name = none) :
    world.variableText? name = none := by
  rw [variableText?, unset]
  rfl

theorem settingText?_eq (world : World) (setting : Setting) :
    world.settingText? setting = (world.readName? setting).bind world.variableText? := by
  rw [settingText?, readName?, Setting.find?_names]
  cases large : world.variableText? setting.variableName with
  | some text =>
      rw [if_pos (by rfl)]
      exact large.symm
  | none =>
      rw [if_neg (by simp)]
      cases small : world.variableText? setting.smallVariableName with
      | some text =>
          rw [if_pos (by rfl)]
          exact small.symm
      | none =>
          rw [if_neg (by simp)]
          rfl

/-- The first name that is set is read, if it is set to text. -/
theorem readName?_of_setName? (isSet : world.setName? setting = some name)
    (isText : world.variableText? name = some text) : world.readName? setting = some name := by
  obtain ⟨_, before, after, names, unset⟩ := List.find?_eq_some_iff_append.mp isSet
  rw [readName?, List.find?_eq_some_iff_append]
  refine ⟨by rw [isText]; rfl, before, after, names, fun earlier member => ?_⟩
  have notSet : world.variableBytes? earlier = none := by
    simpa using unset earlier member
  rw [variableText?_of_unset notSet]
  rfl

theorem settingText?_of_unset (unset : world.setName? setting = none) :
    world.settingText? setting = none := by
  have notSet (name : String) (member : name ∈ setting.names) :
      world.variableText? name = none := by
    apply variableText?_of_unset
    simpa using List.find?_eq_none.mp unset name member
  rw [settingText?, notSet setting.variableName (by simp [Setting.names]),
    notSet setting.smallVariableName (by simp [Setting.names])]
  rfl

end World

/-! ## Layers -/

namespace Command

/-- The layer that loading takes a value of a setting from: a variable or the file, or else
the defaults, which leave some settings without a value. -/
inductive TakenFrom (world : World) (setting : Setting) :
    Origin → Option setting.Value → Prop where
  | ofVariable {name : String} {value : setting.Value}
      (named : world.readName? setting = some name)
      (given : world.settingValue setting = .ok (some value)) :
      TakenFrom world setting (.variable name) (some value)
  | ofFile {path : String} {written : Toml.Value} {value : setting.Value}
      (notGiven : world.settingValue setting = .ok none)
      (found : settingsPath? world none = some path)
      (stands : writtenValue? world {} setting = some written)
      (read : setting.ofToml? written = some value) :
      TakenFrom world setting (.file path) (some value)
  | ofDefaults
      (notGiven : world.settingValue setting = .ok none)
      (notWritten : writtenValue? world {} setting = none) :
      TakenFrom world setting .default setting.default?

section

variable {world : World} {settings : Settings} {setting : Setting}

/-- There is one layer at most. -/
theorem TakenFrom.source_eq {source other : Origin} {value otherValue : Option setting.Value}
    (taken : TakenFrom world setting source value)
    (otherTaken : TakenFrom world setting other otherValue) : source = other := by
  cases taken <;> cases otherTaken <;> simp_all

theorem settingsPath?_of_writtenValue? {written : Toml.Value}
    (stands : writtenValue? world {} setting = some written) :
    ∃ path, settingsPath? world none = some path := by
  simp only [writtenValue?, filledText?, fileText?, Option.bind_eq_some_iff] at stands
  obtain ⟨_, ⟨_, ⟨_, ⟨path, found, _⟩, _⟩, _⟩, _⟩ := stands
  exact ⟨path, found⟩

theorem settingValue_of_load (loaded : Settings.load world {} = .ok settings)
    (setting : Setting) : ∃ given, world.settingValue setting = .ok given := by
  have sound := (Settings.load_eq_ok_iff.mp loaded).1
  rw [loadFaults, List.append_eq_nil_iff, World.settingFaults, List.filterMap_eq_nil_iff] at sound
  have fine := sound.2 setting setting.mem_all
  unfold World.settingFault? at fine
  cases outcome : world.settingValue setting with
  | ok given => exact ⟨given, rfl⟩
  | error error => simp [outcome] at fine

/-- Each setting that is loaded is taken from some layer. -/
theorem exists_takenFrom (loaded : Settings.load world {} = .ok settings) (setting : Setting) :
    ∃ source, TakenFrom world setting source (settings.get setting) := by
  obtain ⟨sound, values, _⟩ := Settings.load_eq_ok_iff.mp loaded
  have noOverride : ({} : LoadOptions).override? setting = none := by
    cases setting <;> rfl
  have value := values setting
  rw [layered?, noOverride] at value
  obtain ⟨given, outcome⟩ := settingValue_of_load loaded setting
  rw [outcome] at value
  cases given with
  | some given =>
      have isText : (world.settingText? setting).isSome := by
        unfold World.settingValue at outcome
        cases text : world.settingText? setting with
        | none => simp [text] at outcome
        | some text => rfl
      rw [World.settingText?_eq, Option.isSome_bind] at isText
      cases named : world.readName? setting with
      | none => simp [named] at isText
      | some name =>
          rw [show settings.get setting = some given from value]
          exact ⟨_, .ofVariable named outcome⟩
  | none =>
      cases stands : writtenValue? world {} setting with
      | some written =>
          obtain ⟨path, found⟩ := settingsPath?_of_writtenValue? stands
          obtain ⟨read, isRead⟩ := exists_ofToml?_of_sound sound stands
          rw [stands, Option.bind_some, isRead] at value
          rw [show settings.get setting = some read from value]
          exact ⟨_, .ofFile outcome found stands isRead⟩
      | none =>
          rw [stands] at value
          rw [show settings.get setting = setting.default? from value]
          exact ⟨_, .ofDefaults outcome stands⟩

end

/-! ## Origins -/

/-- The value at the path of a setting in the file as it is written. -/
def rawValue? (world : World) (setting : Setting) : Option Toml.Value :=
  (writtenFile? world).bind fun file => file.document.at? setting.path

/-- What the listing sees of a setting is what loading reads: the first variable that is set
for it is text, and gives the setting a value even if it is blank; or no variable is set, and
the file says something of the setting before its expressions are replaced if and only if it
does so afterwards. -/
def SeenAsRead (world : World) (setting : Setting) : Prop :=
  match world.setName? setting with
  | some name => ∃ text ∈ world.variableText? name,
      Text.isBlankText text = true → setting.ofBlank?.isSome = true
  | none => ((rawValue? world setting).isSome ↔ (writtenValue? world {} setting).isSome)

instance (world : World) (setting : Setting) : Decidable (SeenAsRead world setting) :=
  match isSet : world.setName? setting with
  | some name =>
    decidable_of_iff
      (∃ text ∈ world.variableText? name,
        Text.isBlankText text = true → setting.ofBlank?.isSome = true)
      (by rw [SeenAsRead, isSet])
  | none =>
    decidable_of_iff
      ((rawValue? world setting).isSome ↔ (writtenValue? world {} setting).isSome)
      (by rw [SeenAsRead, isSet])

section

variable {world : World} {setting : Setting} {name : String}

theorem origin_of_set (isSet : world.setName? setting = some name) :
    origin world (writtenFile? world) setting = .variable name := by
  rw [World.setName?, Setting.find?_names] at isSet
  unfold origin
  dsimp only
  by_cases large : (world.variableBytes? setting.variableName).isSome = true
  · rw [if_pos large] at isSet ⊢
    rw [Option.some.inj isSet]
  · rw [if_neg large] at isSet ⊢
    by_cases small : (world.variableBytes? setting.smallVariableName).isSome = true
    · rw [if_pos small] at isSet ⊢
      rw [Option.some.inj isSet]
    · rw [if_neg small] at isSet
      cases isSet

theorem origin_of_unset (unset : world.setName? setting = none) :
    (rawValue? world setting = none ∧ origin world (writtenFile? world) setting = .default) ∨
      ∃ path value, rawValue? world setting = some value ∧
        settingsPath? world none = some path ∧
        origin world (writtenFile? world) setting = .file path := by
  have notSet := List.find?_eq_none.mp unset
  unfold origin
  dsimp only
  rw [if_neg (notSet _ (by simp [Setting.names])),
    if_neg (notSet _ (by simp [Setting.names])), rawValue?]
  cases standing : writtenFile? world with
  | none => exact .inl ⟨rfl, rfl⟩
  | some file =>
      have found : settingsPath? world none = some file.path := by
        simp only [writtenFile?, bind, Option.bind_eq_some_iff, Option.some.injEq] at standing
        obtain ⟨path, found, _, _, _, _, rfl⟩ := standing
        exact found
      cases present : file.document.at? setting.path with
      | none => exact .inl ⟨present, by simp [present]⟩
      | some value => exact .inr ⟨file.path, value, present, found, by simp [present]⟩

/-- The variable that is set first decides, for the listing by being set, for loading by its
text. -/
theorem origin_eq_iff_of_set {source : Origin} {value : Option setting.Value}
    (taken : TakenFrom world setting source value) (isSet : world.setName? setting = some name) :
    origin world (writtenFile? world) setting = source ↔ SeenAsRead world setting := by
  rw [origin_of_set isSet, SeenAsRead, isSet]
  constructor
  · rintro rfl
    cases taken with
    | @ofVariable _ value named given =>
        obtain ⟨isText, _⟩ := List.find?_eq_some_iff_append.mp named
        obtain ⟨text, reads⟩ := Option.isSome_iff_exists.mp isText
        refine ⟨text, reads, fun blank => ?_⟩
        rw [World.settingValue, World.settingText?_eq, named, Option.bind_some, reads] at given
        dsimp only at given
        rw [if_pos blank] at given
        rw [Except.ok.inj given]
        rfl
  · rintro ⟨text, reads, blankGives⟩
    have named := World.readName?_of_setName? isSet reads
    have someGiven : world.settingValue setting ≠ .ok none := by
      rw [World.settingValue, World.settingText?_eq, named, Option.bind_some, reads]
      dsimp only
      by_cases blank : Text.isBlankText text = true
      · rw [if_pos blank]
        intro nothing
        have gives := blankGives blank
        rw [Except.ok.inj nothing] at gives
        cases gives
      · rw [if_neg blank]
        cases setting.ofText text <;> simp [Except.map]
    cases taken with
    | ofVariable otherNamed given =>
        rw [named] at otherNamed
        rw [Option.some.inj otherNamed]
    | ofFile notGiven => exact absurd notGiven someGiven
    | ofDefaults notGiven => exact absurd notGiven someGiven

/-- If no variable is set the file decides, for the listing as it is written, for loading
with its expressions replaced. -/
theorem origin_eq_iff_of_unset {source : Origin} {value : Option setting.Value}
    (taken : TakenFrom world setting source value) (unset : world.setName? setting = none) :
    origin world (writtenFile? world) setting = source ↔ SeenAsRead world setting := by
  have notGiven : world.settingValue setting = .ok none := by
    rw [World.settingValue, World.settingText?_of_unset unset]
  rw [SeenAsRead, unset]
  dsimp only
  cases taken with
  | ofVariable _ given => simp [notGiven] at given
  | ofFile _ found stands _ =>
      obtain ⟨absent, shown⟩ | ⟨otherPath, _, present, otherFound, shown⟩ := origin_of_unset unset
      · simp [absent, shown, stands]
      · have samePath := Option.some.inj (otherFound.symm.trans found)
        simp [present, shown, stands, samePath]
  | ofDefaults _ notWritten =>
      obtain ⟨absent, shown⟩ | ⟨_, _, present, _, shown⟩ := origin_of_unset unset
      · simp [absent, shown, notWritten]
      · simp [present, shown, notWritten]

theorem origin_eq_iff {source : Origin} {value : Option setting.Value}
    (taken : TakenFrom world setting source value) :
    origin world (writtenFile? world) setting = source ↔ SeenAsRead world setting := by
  cases unset : world.setName? setting with
  | none => exact origin_eq_iff_of_unset taken unset
  | some name => exact origin_eq_iff_of_set taken unset

end

/-! ## Summary -/

theorem Origin.shown_injective {source other : Origin} (same : source.shown = other.shown) :
    source = other := by
  have sameText := congrArg String.toList same
  cases source <;> cases other <;> simp [Origin.shown, String.toList_inj] at sameText ⊢ <;>
    exact sameText

theorem line_source_inj {key value source other : String} :
    line key value source = line key value other ↔ source = other := by
  rw [line, line, String.append_left_inj, String.append_right_inj]

/-- Where settings can be loaded, the listing has a line for each of the twenty. The source
in the line of a setting is the layer that its value was taken from, and no other, if and
only if the listing sees of the setting what loading reads. -/
theorem listing_attribution {world : World} {settings : Settings}
    (loaded : Settings.load world {} = .ok settings) :
    listing world = Text.joined "\n" ([heading] ++
      listedSettings.map (settingLine world settings) ++
      [line "llm.backend" (shownBackend settings) "derived"]) ∧
    ∀ setting, setting ∈ listedSettings ∧
      ((∀ source : Origin,
          settingLine world settings setting =
              line (Text.joined "." setting.path) (shown settings setting) source.shown ↔
            TakenFrom world setting source (settings.get setting)) ↔
        SeenAsRead world setting) := by
  refine ⟨by rw [listing, loaded], fun setting => ⟨by cases setting <;> decide, ?_⟩⟩
  obtain ⟨actual, taken⟩ := exists_takenFrom loaded setting
  have lineIff (source : Origin) :
      settingLine world settings setting =
          line (Text.joined "." setting.path) (shown settings setting) source.shown ↔
        origin world (writtenFile? world) setting = source := by
    rw [settingLine, line_source_inj]
    exact ⟨Origin.shown_injective, congrArg Origin.shown⟩
  have takenIff (source : Origin) :
      TakenFrom world setting source (settings.get setting) ↔ actual = source := by
    constructor
    · exact taken.source_eq
    · rintro rfl
      exact taken
  simp only [lineIff, takenIff]
  rw [← origin_eq_iff taken]
  constructor
  · intro agrees
    exact (agrees actual).mpr rfl
  · intro same source
    rw [same]

/-- In a world whose file asks for a variable in the text of a value, every line is true. -/
theorem listing_layeredWorld :
    ∃ settings, Settings.load layeredWorld {} = .ok settings ∧
      ∀ (setting : Setting) (source : Origin),
        settingLine layeredWorld settings setting =
            line (Text.joined "." setting.path) (shown settings setting) source.shown ↔
          TakenFrom layeredWorld setting source (settings.get setting) := by
  have loads : (Settings.load layeredWorld {}).isOk = true := by decide +kernel
  obtain ⟨settings, loaded⟩ := Result.exists_eq_ok_of_isOk loads
  refine ⟨settings, loaded, fun setting => ?_⟩
  have seen : ∀ setting ∈ Setting.all, SeenAsRead layeredWorld setting := by decide +kernel
  exact ((listing_attribution loaded).2 setting).2.mpr (seen setting setting.mem_all)

/-- A variable that is blank, one that is not text in capitals but in small letters, and a
file that can be parsed only once its variables are put in. -/
def misreadWorld : World where
  entries := [
    (["h2pc.toml"], .file (Text.bytes "[messenger]\nsrc_count_min = $\x7bCOUNT\x7d\n"))]
  environment := [
    ("COUNT", Text.bytes "2"),
    ("VERBOSE", Text.bytes " "),
    ("OLLAMA_BASE_URL", [0xFF]),
    ("ollama_base_url", Text.bytes "http://localhost:11434"),
    ("MESSENGER_KIND", Text.bytes "nats"),
    ("PROMPT_PATH", Text.bytes "prompt.yaml"),
    ("OLLAMA_MODEL_NAME", Text.bytes "llama3")]

/-- Three lines that name a layer which did not provide the value. -/
theorem listing_misreadWorld :
    ∃ settings, Settings.load misreadWorld {} = .ok settings ∧
      (settingLine misreadWorld settings .verbose =
          "- prompt.verbose = false (source: env (VERBOSE))" ∧
        TakenFrom misreadWorld .verbose .default (settings.get .verbose)) ∧
      (settingLine misreadWorld settings .ollamaBaseUrl =
          "- llm.ollama.base_url = http://localhost:11434 (source: env (OLLAMA_BASE_URL))" ∧
        TakenFrom misreadWorld .ollamaBaseUrl (.variable "ollama_base_url")
          (settings.get .ollamaBaseUrl)) ∧
      settingLine misreadWorld settings .sourceMinimum =
          "- messenger.src_count_min = 2 (source: default)" ∧
        TakenFrom misreadWorld .sourceMinimum (.file "h2pc.toml")
          (settings.get .sourceMinimum) := by
  have loads : (Settings.load misreadWorld {}).isOk = true := by decide +kernel
  obtain ⟨settings, loaded⟩ := Result.exists_eq_ok_of_isOk loads
  have lines : (Settings.load misreadWorld {}).toOption.map (fun settings =>
      [Setting.verbose, .ollamaBaseUrl, .sourceMinimum].map
        (settingLine misreadWorld settings)) = some [
      "- prompt.verbose = false (source: env (VERBOSE))",
      "- llm.ollama.base_url = http://localhost:11434 (source: env (OLLAMA_BASE_URL))",
      "- messenger.src_count_min = 2 (source: default)"] := by decide +kernel
  have values : (Settings.load misreadWorld {}).toOption.map (fun settings =>
      (settings.get .verbose, settings.get .ollamaBaseUrl, settings.get .sourceMinimum)) =
        some (some false, some "http://localhost:11434", some 2) := by decide +kernel
  simp only [loaded, Except.toOption, Option.map_some, List.map_cons, List.map_nil,
    Option.some.injEq, List.cons.injEq, Prod.mk.injEq] at lines values
  have blank : misreadWorld.settingText? .verbose = some " " := by decide +kernel
  have given : misreadWorld.settingText? .ollamaBaseUrl = some "http://localhost:11434" := by
    decide +kernel
  have unset : misreadWorld.settingText? .sourceMinimum = none := by decide +kernel
  refine ⟨settings, loaded, ⟨lines.1, ?_⟩, ⟨lines.2.1, ?_⟩, lines.2.2.1, ?_⟩
  · rw [values.1]
    have notGiven : misreadWorld.settingValue .verbose = .ok none := by
      rw [World.settingValue, blank]
      rfl
    exact .ofDefaults notGiven (Option.isNone_iff_eq_none.mp (by decide +kernel))
  · rw [values.2.1]
    have isGiven : misreadWorld.settingValue .ollamaBaseUrl =
        .ok (some "http://localhost:11434") := by
      rw [World.settingValue, given]
      rfl
    exact .ofVariable (by decide +kernel) isGiven
  · rw [values.2.2]
    have notGiven : misreadWorld.settingValue .sourceMinimum = .ok none := by
      rw [World.settingValue, unset]
    have inFile : (writtenValue? misreadWorld {} .sourceMinimum).map countOf? =
        some (some 2) := by
      decide +kernel
    obtain ⟨written, stands, read⟩ := Option.map_eq_some_iff.mp inFile
    exact .ofFile notGiven (by decide +kernel) stands read

end Command

end PromptRelay
