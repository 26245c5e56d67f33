import PromptRelay.Proofs.Settings.Layering

/-!
Contract: lists of settings, and the notations for them.

Owns:
- what reading makes of texts with commas between them, and of the items that it gives;
- that an array of texts, these texts with commas between them and a variable with the same text
  are the same list, wherever settings are loaded from.

Does not own: which lists are acceptable.

A comma in a text is no different from one between texts. Reading therefore distributes over
joining, and all notations come down to the items of one text after those of the other.
-/

namespace PromptRelay

open Text

/-! ## Pieces -/

namespace Text

theorem split_append_separator [DecidableEq α] (separator : α) (left right : List α) :
    split separator (left ++ separator :: right) =
      split separator left ++ split separator right := by
  rw [split_eq_splitOn, split_eq_splitOn, split_eq_splitOn, List.splitOn_append_cons_self]

theorem split_eq_singleton [DecidableEq α] {separator : α} {cs : List α}
    (absent : separator ∉ cs) : split separator cs = [cs] := by
  rw [split_eq_splitOn, List.splitOn_eq_singleton absent]

theorem notMem_of_mem_split [DecidableEq α] {separator : α} {cs piece : List α}
    (member : piece ∈ split separator cs) : separator ∉ piece := by
  induction cs generalizing piece with
  | nil =>
      rw [split, List.mem_singleton] at member
      subst member
      exact List.not_mem_nil
  | cons c rest inductionHypothesis =>
      rw [split] at member
      by_cases isSeparator : c = separator
      · rw [if_pos isSeparator] at member
        rcases List.mem_cons.mp member with rfl | later
        · exact List.not_mem_nil
        · exact inductionHypothesis later
      · rw [if_neg isSeparator] at member
        cases pieces : split separator rest with
        | nil =>
            rw [pieces, List.mem_singleton] at member
            subst member
            exact fun same => isSeparator (List.mem_singleton.mp same).symm
        | cons first others =>
            rw [pieces] at inductionHypothesis member
            rcases List.mem_cons.mp member with rfl | later
            · intro present
              rcases List.mem_cons.mp present with same | inFirst
              · exact isSeparator same.symm
              · exact inductionHypothesis List.mem_cons_self inFirst
            · exact inductionHypothesis (List.mem_cons_of_mem _ later)

end Text

/-! ## Items -/

/-- A text that is an item as it stands. -/
structure IsItem (item : String) : Prop where
  ne_empty : item ≠ ""
  isTrimmed : IsTrimmed item.toList
  noComma : ',' ∉ item.toList

theorem readItems_eq (text : String) :
    readItems text =
      (((split ',' text.toList).map trim).filter fun item => !item.isEmpty).map String.ofList := rfl

theorem isItem_of_mem_readItems {text item : String} (member : item ∈ readItems text) :
    IsItem item := by
  rw [readItems_eq] at member
  obtain ⟨cs, kept, rfl⟩ := List.mem_map.mp member
  obtain ⟨trimmed, notEmpty⟩ := List.mem_filter.mp kept
  obtain ⟨piece, isPiece, rfl⟩ := List.mem_map.mp trimmed
  refine ⟨?_, ?_, ?_⟩
  · intro nothing
    rw [String.ofList_eq_empty_iff.mp nothing] at notEmpty
    cases notEmpty
  · rw [String.toList_ofList]
    exact isTrimmed_trim piece
  · rw [String.toList_ofList]
    intro comma
    exact notMem_of_mem_split isPiece ((infix_trim piece).mem comma)

/-- A text that is an item is read as that item alone. -/
theorem IsItem.readItems_eq_singleton {item : String} (isItem : IsItem item) :
    readItems item = [item] := by
  have notEmpty : item.toList.isEmpty = false := by
    rw [List.isEmpty_eq_false_iff]
    exact fun nothing => isItem.ne_empty (String.toList_eq_nil_iff.mp nothing)
  rw [readItems_eq, split_eq_singleton isItem.noComma, List.map_singleton,
    trim_of_isTrimmed isItem.isTrimmed, List.filter_singleton, notEmpty]
  exact congrArg (fun text => [text]) String.ofList_toList

/-! ## Texts with commas between them -/

/-- It does not matter whether a comma stands in a text or between two. -/
theorem readItems_append_comma (left right : String) :
    readItems (left ++ "," ++ right) = readItems left ++ readItems right := by
  have spelled : (left ++ "," ++ right).toList = left.toList ++ ',' :: right.toList := by
    rw [String.toList_append, String.toList_append, List.append_assoc]
    rfl
  rw [readItems_eq, spelled, split_append_separator, List.map_append, List.filter_append,
    List.map_append]
  rfl

theorem readItems_joined (texts : List String) :
    readItems (joined "," texts) = texts.flatMap readItems := by
  rw [joined]
  induction texts with
  | nil => exact readItems_of_blank rfl
  | cons text texts inductionHypothesis =>
      cases texts with
      | nil => rw [String.intercalate_singleton, List.flatMap_singleton]
      | cons next others =>
          rw [List.flatMap_cons, String.intercalate_cons_cons, readItems_append_comma,
            inductionHypothesis]

theorem readItems_joined_of_isItem {items : List String} (areItems : ∀ item ∈ items, IsItem item) :
    readItems (joined "," items) = items := by
  rw [readItems_joined]
  induction items with
  | nil => rfl
  | cons item items inductionHypothesis =>
      obtain ⟨isItem, others⟩ := List.forall_mem_cons.mp areItems
      rw [List.flatMap_cons, isItem.readItems_eq_singleton, inductionHypothesis others,
        List.singleton_append]

/-! ## Notations -/

open Toml (Value)

/-- The texts in an array of nothing else. -/
def arrayTexts? : Value → Option (List String)
  | .array values => values.mapM textOf?
  | _ => none

theorem arrayTexts?_eq_some_iff {value : Value} {texts : List String} :
    arrayTexts? value = some texts ↔ value = .array (texts.map .text) := by
  cases value <;> simp [arrayTexts?, mapM_textOf?_eq_some_iff]

theorem itemsOf?_array (texts : List String) :
    itemsOf? (.array (texts.map .text)) = some (texts.flatMap readItems) := by
  rw [itemsOf?, mapM_textOf?_eq_some_iff.mpr rfl, Option.map_some]

theorem itemsOf?_text (texts : List String) :
    itemsOf? (.text (joined "," texts)) = some (texts.flatMap readItems) := by
  rw [itemsOf?, readItems_joined]

theorem givenItems?_joined {world : World} {setting : Setting} {texts : List String}
    (given : world.settingText? setting = some (joined "," texts)) :
    givenItems? world setting = some (texts.flatMap readItems) := by
  rw [givenItems?, given, Option.map_some, readItems_joined]

/-! ## Loading -/

/-- The settings that are lists. -/
inductive ListSetting where
  | servers
  | sources
  | sinks
deriving DecidableEq, Repr

namespace ListSetting

def setting : ListSetting → Setting
  | .servers => .servers
  | .sources => .sources
  | .sinks => .sinks

/-- The list that settings hold. -/
def items (list : ListSetting) (settings : Settings) : List String :=
  match list with
  | .servers => settings.messenger.servers
  | .sources => settings.messenger.sources
  | .sinks => settings.messenger.sinks

/-- The notations for a list of texts: a variable or the file, and there one text with commas or
an array. -/
inductive IsGivenAs (world : World) (options : LoadOptions) (list : ListSetting)
    (texts : List String) : Prop where
  | inVariable (given : world.settingText? list.setting = some (joined "," texts))
  | inText (unset : world.settingText? list.setting = none)
      (written : writtenValue? world options list.setting = some (.text (joined "," texts)))
  | inArray (unset : world.settingText? list.setting = none)
      (written : writtenValue? world options list.setting = some (.array (texts.map .text)))

section

variable {world : World} {options : LoadOptions} {settings : Settings}

/-- What the environment gives comes before what the file says, and without either the list is
empty. -/
theorem items_of_load (list : ListSetting) (loaded : Settings.load world options = .ok settings) :
    some (list.items settings) =
      (givenItems? world list.setting <|>
        (writtenValue? world options list.setting).bind itemsOf? <|> some []) := by
  obtain ⟨_, values, _⟩ := Settings.load_eq_ok_iff.mp loaded
  have environment (setting : Setting) := givenItems?_eq world setting
  cases list with
  | servers => exact (values .servers).trans (layered?_eq_of_given rfl (environment .servers).symm)
  | sources => exact (values .sources).trans (layered?_eq_of_given rfl (environment .sources).symm)
  | sinks => exact (values .sinks).trans (layered?_eq_of_given rfl (environment .sinks).symm)

theorem IsGivenAs.items_eq {list : ListSetting} {texts : List String}
    (isGiven : list.IsGivenAs world options texts)
    (loaded : Settings.load world options = .ok settings) :
    list.items settings = texts.flatMap readItems := by
  have items := list.items_of_load loaded
  cases isGiven with
  | inVariable given =>
      rw [givenItems?_joined given] at items
      exact Option.some.inj items
  | inText unset written =>
      rw [givenItems?, unset, written, Option.bind_some, itemsOf?_text] at items
      exact Option.some.inj items
  | inArray unset written =>
      rw [givenItems?, unset, written, Option.bind_some, itemsOf?_array] at items
      exact Option.some.inj items

end

end ListSetting

/-! ## Summary -/

/-- Lists mean the same in all notations. An array of texts, the texts with commas between them
and a variable with the latter are read as the same list, whatever is in the texts, and so are
settings loaded with either. An item that is read is not empty, has no blanks around it and no
comma in it. A list of such items is read as it is from what joins them, so that reading, joining
and reading again changes nothing. -/
theorem lists_agree :
    (∀ texts : List String,
      itemsOf? (.array (texts.map .text)) = itemsOf? (.text (joined "," texts)) ∧
      itemsOf? (.text (joined "," texts)) = some (texts.flatMap readItems) ∧
      ∀ (world : World) (setting : Setting),
        world.settingText? setting = some (joined "," texts) →
        givenItems? world setting = some (texts.flatMap readItems)) ∧
    (∀ world options settings, Settings.load world options = .ok settings →
      ∀ (list : ListSetting) (texts : List String), list.IsGivenAs world options texts →
        list.items settings = texts.flatMap readItems) ∧
    (∀ text, ∀ item ∈ readItems text, IsItem item) ∧
    (∀ items, (∀ item ∈ items, IsItem item) → readItems (joined "," items) = items) ∧
    ∀ text, readItems (joined "," (readItems text)) = readItems text := by
  refine ⟨?_, ?_, ?_, ?_, ?_⟩
  · intro texts
    refine ⟨?_, itemsOf?_text texts, fun world setting given => givenItems?_joined given⟩
    rw [itemsOf?_array, itemsOf?_text]
  · intro world options settings loaded list texts isGiven
    exact isGiven.items_eq loaded
  · intro text item member
    exact isItem_of_mem_readItems member
  · intro items areItems
    exact readItems_joined_of_isItem areItems
  · intro text
    exact readItems_joined_of_isItem fun item member => isItem_of_mem_readItems member

/-- Two lists, one in an array of the settings file and the other in a variable. -/
def listingWorld : World where
  entries := [(["h2pc.toml"], .file (Text.bytes "messenger.topic_src=[' in, other ', ',', 'last']"))]
  environment := [
    ("MESSENGER_KIND", Text.bytes "kafka"),
    ("MESSENGER_BOOTSTRAP_SERVERS", Text.bytes "localhost:9092"),
    ("MESSENGER_TOPIC_SINK", Text.bytes " in, other ,,,last"),
    ("PROMPT_PATH", Text.bytes "prompt.yaml"),
    ("OLLAMA_BASE_URL", Text.bytes "http://localhost:11434"),
    ("OLLAMA_MODEL_NAME", Text.bytes "llama3")]

/-- Both have the same three items. -/
theorem lists_listingWorld :
    ∃ settings, Settings.load listingWorld {} = .ok settings ∧
      settings.messenger.sources = ["in", "other", "last"] ∧
      settings.messenger.sinks = ["in", "other", "last"] := by
  have inArray : ListSetting.sources.IsGivenAs listingWorld {} [" in, other ", ",", "last"] := by
    have checked : (writtenValue? listingWorld {} .sources).bind arrayTexts? =
        some [" in, other ", ",", "last"] := by decide +kernel
    obtain ⟨value, written, isArray⟩ := Option.bind_eq_some_iff.mp checked
    rw [arrayTexts?_eq_some_iff.mp isArray] at written
    exact .inArray (by decide +kernel) written
  have inVariable : ListSetting.sinks.IsGivenAs listingWorld {} [" in, other ", ",", "last"] :=
    .inVariable (by decide +kernel)
  have loads : (Settings.load listingWorld {}).isOk = true := by decide +kernel
  obtain ⟨settings, loaded⟩ := Result.exists_eq_ok_of_isOk loads
  have agree := lists_agree.2.1 listingWorld {} settings loaded
  exact ⟨settings, loaded, (agree .sources _ inArray).trans (by decide +kernel),
    (agree .sinks _ inVariable).trans (by decide +kernel)⟩

end PromptRelay
