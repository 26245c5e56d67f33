import PromptRelay.Proofs.Text.Numerals
import PromptRelay.Proofs.Text.Trimming
import PromptRelay.Settings.Spelling

/-!
Contract: which texts spell the values of settings.

Owns:
- the texts that spell a word, in letters of either case;
- the texts that spell a count, a switch, a messenger kind and a log format, and that these
  and no others are read as such;
- the items of a list, and that reading gives them.

Does not own: where the texts come from.

Digits are checked against the limit one by one. A text is still refused for its number alone,
so that leading zeros make no difference, however many there are.
-/

namespace PromptRelay

open Text

/-! ## Words -/

theorem lowerLetter_eq_toLower (c : Char) : lowerLetter c = c.toLower := by
  have isCapital : ('A' ≤ c && c ≤ 'Z') = true ↔ c.val ≥ 'A'.val ∧ c.val ≤ 'Z'.val := by
    rw [Bool.and_eq_true, decide_eq_true_eq, decide_eq_true_eq]
    rfl
  unfold lowerLetter Char.toLower
  by_cases capital : c.val ≥ 'A'.val ∧ c.val ≤ 'Z'.val
  · rw [if_pos (isCapital.mpr capital), dif_pos capital]
    have low : c.toNat ≤ 90 := UInt32.le_iff_toNat_le.mp capital.2
    have sum : (c.val + ('a'.val - 'A'.val)).toNat = c.toNat + 32 := by
      rw [UInt32.toNat_add]
      exact Nat.mod_eq_of_lt (by simp; omega)
    have isCharacter : (c.toNat + 32).isValidChar := .inl (by omega)
    rw [← Char.toNat_inj, Char.ofNat, dif_pos isCharacter]
    exact sum.symm
  · rw [if_neg (mt isCapital.mp capital), dif_neg capital]

theorem lowered_eq_toLower (text : String) : lowered text = text.toLower := by
  have letters : text.toLower.toList = text.toList.map Char.toLower := String.toList_map
  rw [← String.toList_inj, lowered, String.toList_ofList, lowerLetters, letters]
  exact List.map_congr_left fun c _ => lowerLetter_eq_toLower c

/-- The text is a word, in letters of either case, with blanks around it or none. -/
def SpellsWord (text word : String) : Prop :=
  ∃ core, IsCore core text.toList ∧ (String.ofList core).toLower = word

theorem spellsWord_iff {text word : String} :
    SpellsWord text word ↔ lowered (trimmed text) = word := by
  simp only [SpellsWord, isCore_iff, exists_eq_left', lowered_eq_toLower, trimmed]

/-! ## Kinds and formats -/

theorem readKind_eq_ok_iff {text : String} {kind : MessengerKind} :
    readKind text = .ok kind ↔ SpellsWord text kind.name := by
  rw [spellsWord_iff, readKind]
  generalize lowered (trimmed text) = word
  cases kind <;> grind [MessengerKind.name]

theorem readKind_eq_error_iff {text : String} {violation : Violation} :
    readKind text = .error violation ↔
      (∀ kind : MessengerKind, ¬ SpellsWord text kind.name) ∧
        ∃ word, SpellsWord text word ∧ violation = .unsupportedKind word := by
  simp only [spellsWord_iff, exists_eq_left', readKind]
  generalize lowered (trimmed text) = word
  have noKind : (∀ kind : MessengerKind, word ≠ kind.name) ↔ word ≠ "kafka" ∧ word ≠ "nats" :=
    ⟨fun differs => ⟨differs .kafka, differs .nats⟩, fun differs kind => by
      cases kind
      · exact differs.1
      · exact differs.2⟩
  rw [noKind]
  grind

theorem readFormat_eq_ok_iff {text : String} {format : LogFormat} :
    readFormat text = .ok format ↔ SpellsWord text format.name := by
  rw [spellsWord_iff, readFormat]
  generalize lowered (trimmed text) = word
  cases format <;> grind [LogFormat.name]

theorem readFormat_eq_error_iff {text : String} {violation : Violation} :
    readFormat text = .error violation ↔
      (∀ format : LogFormat, ¬ SpellsWord text format.name) ∧
        ∃ word, SpellsWord text word ∧ violation = .unsupportedFormat word := by
  simp only [spellsWord_iff, exists_eq_left', readFormat]
  generalize lowered (trimmed text) = word
  have noFormat : (∀ format : LogFormat, word ≠ format.name) ↔
      word ≠ "compact" ∧ word ≠ "pretty" ∧ word ≠ "json" :=
    ⟨fun differs => ⟨differs .compact, differs .pretty, differs .json⟩, fun differs format => by
      cases format
      · exact differs.1
      · exact differs.2.1
      · exact differs.2.2⟩
  rw [noFormat]
  grind

/-! ## Switches -/

/-- The words for a switch that is on, and for one that is off. -/
def switchWords : Bool → List String
  | true => ["1", "true", "yes", "on"]
  | false => ["0", "false", "no", "off"]

/-- The text is one of the words for a switch. -/
def SpellsSwitch (text : String) (isOn : Bool) : Prop :=
  ∃ word ∈ switchWords isOn, SpellsWord text word

theorem readSwitch?_eq_some_iff {text : String} {isOn : Bool} :
    readSwitch? text = some isOn ↔ SpellsSwitch text isOn := by
  simp only [SpellsSwitch, spellsWord_iff, readSwitch?, exists_eq_right']
  generalize lowered (trimmed text) = word
  cases isOn <;> simp only [switchWords] <;> grind

/-! ## Counts -/

/-- The texts that spell a count: a natural number that a word holds, with blanks around it or
none. -/
structure SpellsCount (text : String) (count : Nat) : Prop where
  surrounded : ∃ before kept after, text.toList = before ++ (kept ++ after) ∧
    (∀ c ∈ before, isBlank c = true) ∧ (∀ c ∈ after, isBlank c = true) ∧ SpellsNatural kept count
  isHeld : count < 2 ^ 64

theorem Word.le_maximum_iff {number : Nat} : number ≤ maximum ↔ number < 2 ^ 64 := by
  unfold maximum limit
  omega

theorem readCount?_eq_some_iff {text : String} {count : Nat} :
    readCount? text = some count ↔ SpellsCount text count := by
  rw [readCount?, readNatural?_eq_some_iff, Word.le_maximum_iff]
  constructor
  · rintro ⟨spelled, isHeld⟩
    obtain ⟨before, after, beforeBlank, afterBlank, parted, _⟩ := exists_trim text.toList
    exact ⟨⟨before, _, after, parted, beforeBlank, afterBlank, spelled⟩, isHeld⟩
  · rintro ⟨⟨before, kept, after, parted, beforeBlank, afterBlank, spelled⟩, isHeld⟩
    have isTrimmed : IsTrimmed kept := isTrimmed_of_noBlank fun _ => spelled.isBlank_eq_false
    rw [parted, trim_append beforeBlank isTrimmed afterBlank]
    exact ⟨spelled, isHeld⟩

theorem readCount?_eq_none_iff {text : String} :
    readCount? text = none ↔ ∀ count, ¬ SpellsCount text count := by
  simp only [Option.eq_none_iff_forall_ne_some, ne_eq, readCount?_eq_some_iff]

/-- A sign alone, a minus sign and digits of other scripts spell no count. -/
example : readCount? "+" = none ∧ readCount? "-0" = none ∧ readCount? "\u0663" = none := by
  decide +kernel

/-- The decimal notation of a number spells that number and no other, if a word holds it. -/
theorem spellsCount_toString_iff {number count : Nat} :
    SpellsCount (toString number) count ↔ count = number ∧ number < 2 ^ 64 := by
  have spelled := spellsNatural_toString number
  have isTrimmed := isTrimmed_of_noBlank fun _ => spelled.isBlank_eq_false
  rw [← readCount?_eq_some_iff, readCount?, trim_of_isTrimmed isTrimmed, readNatural?_eq_some_iff,
    Word.le_maximum_iff]
  constructor
  · rintro ⟨spelledCount, isHeld⟩
    have same := spelledCount.unique spelled
    exact ⟨same, same ▸ isHeld⟩
  · rintro ⟨rfl, isHeld⟩
    exact ⟨spelled, isHeld⟩

/-! ## Lists -/

/-- The items that pieces of a text amount to, in their order: each without the blanks around
it, and none for a piece of blanks. -/
inductive Itemizes : (pieces : List (List Char)) → (items : List String) → Prop where
  | nil : Itemizes [] []
  | blank {piece : List Char} {pieces : List (List Char)} {items : List String}
      (isBlank : ∀ c ∈ piece, isBlank c = true) (others : Itemizes pieces items) :
      Itemizes (piece :: pieces) items
  | item {core piece : List Char} {pieces : List (List Char)} {items : List String}
      (isCore : IsCore core piece) (isNonempty : core ≠ []) (others : Itemizes pieces items) :
      Itemizes (piece :: pieces) (String.ofList core :: items)

/-- The items of a text stand between its commas. -/
def SpellsItems (text : String) (items : List String) : Prop :=
  Itemizes (text.toList.splitOn ',') items

theorem itemizes_iff {pieces : List (List Char)} {items : List String} :
    Itemizes pieces items ↔
      ((pieces.map trim).filter fun item => !item.isEmpty).map String.ofList = items := by
  constructor
  · intro itemizes
    induction itemizes with
    | nil => rfl
    | blank isBlank others inductionHypothesis =>
        rw [List.map_cons, (trim_eq_nil_iff _).mpr isBlank]
        exact inductionHypothesis
    | item isCore isNonempty others inductionHypothesis =>
        rw [List.map_cons, isCore_iff.mp isCore,
          List.filter_cons_of_pos (by simpa using isNonempty), List.map_cons, inductionHypothesis]
  · rintro rfl
    induction pieces with
    | nil => exact .nil
    | cons piece pieces inductionHypothesis =>
        by_cases nothing : trim piece = []
        · rw [List.map_cons, nothing]
          exact .blank ((trim_eq_nil_iff piece).mp nothing) inductionHypothesis
        · rw [List.map_cons, List.filter_cons_of_pos (by simpa using nothing), List.map_cons]
          exact .item (isCore_iff.mpr rfl) nothing inductionHypothesis

theorem readItems_eq_iff {text : String} {items : List String} :
    readItems text = items ↔ SpellsItems text items := by
  rw [SpellsItems, itemizes_iff, readItems, listItems, split_eq_splitOn]

end PromptRelay
