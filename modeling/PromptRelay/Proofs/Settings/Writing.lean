import PromptRelay.Proofs.Settings.Lookup
import PromptRelay.Proofs.Settings.Spelling
import PromptRelay.Settings.File

/-!
Contract: how the values of settings are written in a settings file.

Owns:
- the notations for texts, counts, choices, lists and records;
- what is written for the value of each setting, and that this and nothing else is read as it.

Does not own: where in a settings file the values stand.
-/

namespace PromptRelay

open Text (split_eq_splitOn)

/-! ## Texts and counts -/

theorem textOf?_eq_some_iff {value : Toml.Value} {text : String} :
    textOf? value = some text ↔ value = .text text := by
  cases value <;> simp [textOf?]

theorem mapM_textOf?_eq_some_iff {values : List Toml.Value} {texts : List String} :
    values.mapM textOf? = some texts ↔ values = texts.map .text := by
  induction values generalizing texts with
  | nil => cases texts <;> simp
  | cons value values inductionHypothesis =>
      simp only [List.mapM_cons, bind, pure, Option.bind_eq_some_iff, textOf?_eq_some_iff,
        inductionHypothesis, Option.some.injEq]
      cases texts with
      | nil => simp
      | cons text texts => simp

theorem countOf?_eq_some_iff {written : Toml.Value} {count : Nat} :
    countOf? written = some count ↔ written = .integer count := by
  cases written with
  | integer number =>
      simp only [countOf?, Option.ite_none_right_eq_some, Option.some.injEq,
        Toml.Value.integer.injEq]
      omega
  | _ => simp [countOf?]

/-! ## Choices -/

/-- A name, as a text or as the only key of a table with nothing in its value. -/
inductive NamesChoice (name : String) : Toml.Value → Prop where
  | text : NamesChoice name (.text name)
  | table : NamesChoice name (.table [(name, .table [])])
  | array : NamesChoice name (.table [(name, .array [])])

theorem choiceOf?_eq_some_iff {choices : List (String × α)} {written : Toml.Value} {choice : α} :
    choiceOf? choices written = some choice ↔
      ∃ name, choices.lookup name = some choice ∧ NamesChoice name written := by
  constructor
  · intro chosen
    unfold choiceOf? at chosen
    split at chosen
    case h_1 name => exact ⟨name, chosen, .text⟩
    case h_2 name value =>
      obtain ⟨isEmpty, chosen⟩ := Option.ite_none_right_eq_some.mp chosen
      refine ⟨name, chosen, ?_⟩
      cases value with
      | table members =>
          cases List.isEmpty_iff.mp isEmpty
          exact .table
      | array items =>
          cases List.isEmpty_iff.mp isEmpty
          exact .array
      | _ => cases isEmpty
    case h_3 => cases chosen
  · rintro ⟨name, chosen, names⟩
    cases names with
    | text => exact chosen
    | table => exact chosen
    | array => exact chosen

theorem kindOf?_eq_some_iff {written : Toml.Value} {kind : MessengerKind} :
    kindOf? written = some kind ↔ NamesChoice kind.name written := by
  have named (name : String) :
      ([.kafka, .nats].map fun kind : MessengerKind => (kind.name, kind)).lookup name = some kind ↔
        name = kind.name := by
    cases kind <;> grind [MessengerKind.name]
  simp only [kindOf?, choiceOf?_eq_some_iff, named, exists_eq_left]

theorem formatOf?_eq_some_iff {written : Toml.Value} {format : LogFormat} :
    formatOf? written = some format ↔ NamesChoice format.name written := by
  have named (name : String) :
      ([.compact, .pretty, .json].map fun format : LogFormat => (format.name, format)).lookup name =
        some format ↔ name = format.name := by
    cases format <;> grind [LogFormat.name]
  simp only [formatOf?, choiceOf?_eq_some_iff, named, exists_eq_left]

/-! ## Lists -/

/-- A list, as one text or as an array of texts. Either way its items stand between commas. -/
inductive ListsItems : Toml.Value → List String → Prop where
  | text {text : String} {items : List String} (spells : SpellsItems text items) :
      ListsItems (.text text) items
  | array {texts items : List String}
      (itemizes : Itemizes (texts.flatMap fun text => text.toList.splitOn ',') items) :
      ListsItems (.array (texts.map .text)) items

theorem itemsOf?_eq_some_iff {written : Toml.Value} {items : List String} :
    itemsOf? written = some items ↔ ListsItems written items := by
  have ofTexts (texts : List String) : texts.flatMap readItems = items ↔
      Itemizes (texts.flatMap fun text => text.toList.splitOn ',') items := by
    have pointwise : readItems = fun text => (((text.toList.splitOn ',').map Text.trim).filter
        fun item => !item.isEmpty).map String.ofList := by
      funext text
      rw [readItems, listItems, split_eq_splitOn]
    simp only [itemizes_iff, List.map_flatMap, List.filter_flatMap, pointwise]
  constructor
  · intro listed
    cases written with
    | text text => exact .text (readItems_eq_iff.mp (Option.some.inj listed))
    | array values =>
        obtain ⟨texts, areTexts, rfl⟩ := Option.map_eq_some_iff.mp listed
        rw [mapM_textOf?_eq_some_iff.mp areTexts]
        exact .array ((ofTexts texts).mp rfl)
    | _ => cases listed
  · rintro (spells | itemizes)
    · exact congrArg some (readItems_eq_iff.mpr spells)
    · rw [itemsOf?, mapM_textOf?_eq_some_iff.mpr rfl, Option.map_some, (ofTexts _).mpr itemizes]

/-! ## Records -/

/-- A record: a table of its members, or an array with an item for each of the keys. -/
inductive IsRecord (keys : List String) : Toml.Value → Members → Prop where
  | table (members : Members) : IsRecord keys (.table members) members
  | array {items : List Toml.Value} (enough : keys.length ≤ items.length) :
      IsRecord keys (.array items) (keys.zip items)

theorem recordOf?_eq_some_iff {keys : List String} {written : Toml.Value} {members : Members} :
    recordOf? keys written = some members ↔ IsRecord keys written members := by
  constructor
  · intro read
    cases written with
    | table written =>
        cases read
        exact .table _
    | array items =>
        obtain ⟨enough, zipped⟩ := Option.ite_none_right_eq_some.mp read
        cases zipped
        exact .array enough
    | _ => cases read
  · rintro (_ | enough)
    · rfl
    · exact if_pos enough

/-! ## Settings -/

/-- Reads the value of a setting. -/
def Setting.ofToml? : (setting : Setting) → Toml.Value → Option setting.Value
  | .kind => kindOf?
  | .servers | .sources | .sinks => itemsOf?
  | .sourceMinimum | .sourceMaximum | .sinkMinimum | .sinkMaximum | .timeoutSeconds => countOf?
  | .verbose => switchOf?
  | .logFormat => formatOf?
  | .clientId | .groupId | .promptPath | .ollamaBaseUrl | .ollamaModelName | .openAiApiKey
  | .openAiBaseUrl | .openAiModelName | .logLevel => textOf?

/-- What is written for the value of a setting. -/
def Setting.IsWrittenAs : (setting : Setting) → Toml.Value → setting.Value → Prop
  | .kind => fun written kind => NamesChoice kind.name written
  | .servers | .sources | .sinks => ListsItems
  | .sourceMinimum | .sourceMaximum | .sinkMinimum | .sinkMaximum | .timeoutSeconds =>
      fun written count => written = .integer count
  | .verbose => fun written isOn => written = .boolean isOn
  | .logFormat => fun written format => NamesChoice format.name written
  | .clientId | .groupId | .promptPath | .ollamaBaseUrl | .ollamaModelName | .openAiApiKey
  | .openAiBaseUrl | .openAiModelName | .logLevel => fun written text => written = .text text

theorem ofToml?_eq_some_iff {setting : Setting} {written : Toml.Value} {value : setting.Value} :
    setting.ofToml? written = some value ↔ setting.IsWrittenAs written value := by
  cases setting
  case kind => exact kindOf?_eq_some_iff
  case logFormat => exact formatOf?_eq_some_iff
  case servers | sources | sinks => exact itemsOf?_eq_some_iff
  case sourceMinimum | sourceMaximum | sinkMinimum | sinkMaximum | timeoutSeconds =>
    exact countOf?_eq_some_iff
  case verbose => cases written <;> simp [Setting.ofToml?, switchOf?, Setting.IsWrittenAs]
  all_goals exact textOf?_eq_some_iff

end PromptRelay
