import PromptRelay.Proofs.Json.Numbers
import PromptRelay.Proofs.Json.Strings

/-!
Contract: which bytes are a JSON document, and what it says.

Owns:
- the trees of values that documents say, as far as readers tell them apart: numbers count as
  equal, and a string may have no text;
- the grammar of values, with blanks between any two tokens;
- where a value begins and what may follow on it within brackets.

Does not own: readers, which have to agree with this.

A phrase is spelled by the bytes between an input and a rest of it. A number may be spelled by
fewer digits than there are; what follows on it decides, which is a mark within brackets and
nothing at the end of a document.
-/

namespace PromptRelay.Json

open Text (Bytes utf8)

/-! ## Trees -/

/-- What a value says. -/
inductive Tree where
  | null
  | boolean (value : Bool)
  | number
  /-- A string, with its text if it has one. -/
  | text (value : Option String)
  | list (items : List Tree)
  /-- Members in their order, of which several may have one name. -/
  | object (members : List (Option String × Tree))

/-- A value, or what is left of a list or of an object behind its opening mark, where there may
have been an item or a member before. -/
inductive Phrase where
  | value (tree : Tree)
  | items (isFirst : Bool) (trees : List Tree)
  | members (isFirst : Bool) (branches : List (Option String × Tree))

/-! ## Grammar -/

/-- The rest of an input behind blanks, if there are any. -/
def Blanks (input rest : Bytes) : Prop :=
  ∃ blanks, (∀ byte ∈ blanks, isSpace byte = true) ∧ input = blanks ++ rest

/-- The rest of an input behind the comma that has to stand before what is not the first. -/
def Onward (isFirst : Bool) (input rest : Bytes) : Prop :=
  if isFirst then input = rest else Blanks input (comma :: rest)

def booleanTail (value : Bool) : Bytes :=
  if value then letterT :: trueTail else letterF :: falseTail

/-- The bytes that spell a phrase, up to a rest. -/
inductive Spells : Phrase → Bytes → Bytes → Prop where
  | null {input rest : Bytes} (blanks : Blanks input (letterN :: (nullTail ++ rest))) :
      Spells (.value .null) input rest
  | boolean {value : Bool} {input rest : Bytes}
      (blanks : Blanks input (booleanTail value ++ rest)) :
      Spells (.value (.boolean value)) input rest
  | number {text : List Char} {input rest : Bytes} (isNumber : IsNumber text)
      (blanks : Blanks input (utf8 text ++ rest)) : Spells (.value .number) input rest
  | text {pieces : List Piece} {value : Option String} {input between rest : Bytes}
      (blanks : Blanks input (quote :: between)) (spelled : Pieces between pieces rest)
      (meant : textOf? pieces = value) : Spells (.value (.text value)) input rest
  | list {trees : List Tree} {input between rest : Bytes}
      (blanks : Blanks input (openList :: between))
      (items : Spells (.items true trees) between rest) : Spells (.value (.list trees)) input rest
  | object {members : List (Option String × Tree)} {input between rest : Bytes}
      (blanks : Blanks input (openObject :: between))
      (inner : Spells (.members true members) between rest) :
      Spells (.value (.object members)) input rest
  | closedList {isFirst : Bool} {input rest : Bytes}
      (blanks : Blanks input (closeList :: rest)) : Spells (.items isFirst []) input rest
  | item {isFirst : Bool} {tree : Tree} {trees : List Tree} {input atItem behind rest : Bytes}
      (onward : Onward isFirst input atItem) (value : Spells (.value tree) atItem behind)
      (others : Spells (.items false trees) behind rest) :
      Spells (.items isFirst (tree :: trees)) input rest
  | closedObject {isFirst : Bool} {input rest : Bytes}
      (blanks : Blanks input (closeObject :: rest)) : Spells (.members isFirst []) input rest
  | member {isFirst : Bool} {pieces : List Piece} {name : Option String} {tree : Tree}
      {members : List (Option String × Tree)}
      {input atMember inName behindName atValue behind rest : Bytes}
      (onward : Onward isFirst input atMember) (blanks : Blanks atMember (quote :: inName))
      (named : Pieces inName pieces behindName) (meant : textOf? pieces = name)
      (colonBlanks : Blanks behindName (colon :: atValue))
      (value : Spells (.value tree) atValue behind)
      (others : Spells (.members false members) behind rest) :
      Spells (.members isFirst ((name, tree) :: members)) input rest

/-- A text that is one value, with nothing but blanks around it. -/
def Document (text : Bytes) (tree : Tree) : Prop :=
  ∃ rest, Spells (.value tree) text rest ∧ ∀ byte ∈ rest, isSpace byte = true

/-! ## Blanks -/

namespace Blanks

variable {input between rest : Bytes}

theorem refl (input : Bytes) : Blanks input input :=
  ⟨[], by simp, rfl⟩

theorem trans (first : Blanks input between) (second : Blanks between rest) :
    Blanks input rest := by
  obtain ⟨early, earlyBlank, rfl⟩ := first
  obtain ⟨late, lateBlank, rfl⟩ := second
  refine ⟨early ++ late, fun byte member => ?_, (List.append_assoc _ _ _).symm⟩
  rcases List.mem_append.mp member with inEarly | inLate
  · exact earlyBlank byte inEarly
  · exact lateBlank byte inLate

theorem length_le (blanks : Blanks input rest) : rest.length ≤ input.length := by
  obtain ⟨skipped, _, rfl⟩ := blanks
  rw [List.length_append]
  exact Nat.le_add_left _ _

theorem skipSpace_eq (blanks : Blanks input rest) : skipSpace input = skipSpace rest := by
  obtain ⟨skipped, blank, rfl⟩ := blanks
  exact List.dropWhile_append_of_pos blank

/-- A mark that is no blank is what is found behind blanks. -/
theorem skipSpace {mark : UInt8} (blanks : Blanks input (mark :: rest))
    (noSpace : isSpace mark = false) : Json.skipSpace input = mark :: rest := by
  rw [blanks.skipSpace_eq]
  exact List.dropWhile_cons_of_neg (by rw [noSpace]; decide)

end Blanks

theorem blanks_skipSpace (input : Bytes) : Blanks input (skipSpace input) :=
  ⟨input.takeWhile isSpace, fun _ => List.mem_takeWhile_imp,
    List.takeWhile_append_dropWhile.symm⟩

theorem blanks_of_skipSpace {input rest : Bytes} (found : skipSpace input = rest) :
    Blanks input rest :=
  found ▸ blanks_skipSpace input

theorem skipSpace_eq_nil_iff {input : Bytes} :
    skipSpace input = [] ↔ ∀ byte ∈ input, isSpace byte = true :=
  List.dropWhile_eq_nil_iff

/-- What is found behind blanks is no blank. -/
theorem isSpace_of_skipSpace {input rest : Bytes} {byte : UInt8}
    (found : skipSpace input = byte :: rest) : isSpace byte = false := by
  have stopped := List.head?_dropWhile_not isSpace input
  rw [skipSpace] at found
  rw [found] at stopped
  exact stopped

theorem ends_of_blanks {input rest : Bytes} {mark : UInt8} (blanks : Blanks input (mark :: rest))
    (isMark : mark = comma ∨ mark = closeList ∨ mark = closeObject) : Ends input := by
  obtain ⟨skipped, blank, rfl⟩ := blanks
  intro byte isFirst
  cases skipped with
  | nil =>
      cases isFirst
      rcases isMark with rfl | rfl | rfl <;> decide
  | cons first skipped =>
      cases isFirst
      have isBlank := blank byte List.mem_cons_self
      simp only [isSpace, Bool.or_eq_true, beq_iff_eq, or_assoc] at isBlank
      rcases isBlank with rfl | rfl | rfl | rfl <;> decide

theorem ends_of_blank {input : Bytes} (blank : ∀ byte ∈ input, isSpace byte = true) :
    Ends input := by
  intro byte isFirst
  have isBlank := blank byte (List.mem_of_mem_head? isFirst)
  simp only [isSpace, Bool.or_eq_true, beq_iff_eq, or_assoc] at isBlank
  rcases isBlank with rfl | rfl | rfl | rfl <;> decide

/-! ## Phrases -/

/-- How many bytes a phrase takes at least. -/
def Phrase.size : Phrase → Nat
  | .value _ => 1
  | .items _ trees => trees.length + 1
  | .members _ branches => branches.length + 1

theorem Onward.length_le {isFirst : Bool} {input rest : Bytes} (onward : Onward isFirst input rest) :
    rest.length ≤ input.length := by
  cases isFirst with
  | true => exact Nat.le_of_eq (congrArg List.length onward).symm
  | false => exact Nat.le_of_succ_le (Blanks.length_le onward)

theorem Spells.size_le {phrase : Phrase} {input rest : Bytes} (spelled : Spells phrase input rest) :
    rest.length + phrase.size ≤ input.length := by
  induction spelled with
  | null blanks =>
      have within := blanks.length_le
      simp only [List.length_cons, List.length_append] at within
      simp only [Phrase.size]
      omega
  | @boolean value _ _ blanks =>
      have within := blanks.length_le
      have some : 1 ≤ (booleanTail value).length := by cases value <;> decide
      simp only [List.length_append] at within
      simp only [Phrase.size]
      omega
  | @number text _ _ isNumber blanks =>
      have within := blanks.length_le
      have least := Text.length_le_length_utf8 text
      have some := List.length_pos_iff.mpr isNumber.isNonempty
      simp only [List.length_append] at within
      simp only [Phrase.size]
      omega
  | text blanks spelled _ =>
      have within := blanks.length_le
      have shorter := spelled.length_lt
      simp only [List.length_cons] at within
      simp only [Phrase.size]
      omega
  | list blanks _ inner | object blanks _ inner =>
      have within := blanks.length_le
      simp only [List.length_cons] at within
      simp only [Phrase.size] at inner ⊢
      omega
  | closedList blanks | closedObject blanks =>
      have within := blanks.length_le
      simpa [Phrase.size] using within
  | item onward _ _ value others =>
      have within := onward.length_le
      simp only [Phrase.size] at value others
      simp only [Phrase.size, List.length_cons]
      omega
  | member onward blanks named _ colonBlanks _ _ value others =>
      have within := onward.length_le
      have withinMember := blanks.length_le
      have withinName := named.length_lt
      have withinColon := colonBlanks.length_le
      simp only [List.length_cons] at withinMember withinColon
      simp only [Phrase.size] at value others
      simp only [Phrase.size, List.length_cons]
      omega

/-- Behind an item there is a byte that ends numbers. -/
theorem Spells.ends_items {trees : List Tree} {input rest : Bytes}
    (spelled : Spells (.items false trees) input rest) : Ends input := by
  cases spelled with
  | closedList blanks => exact ends_of_blanks blanks (.inr (.inl rfl))
  | item onward _ _ => exact ends_of_blanks onward (.inl rfl)

theorem Spells.ends_members {members : List (Option String × Tree)} {input rest : Bytes}
    (spelled : Spells (.members false members) input rest) : Ends input := by
  cases spelled with
  | closedObject blanks => exact ends_of_blanks blanks (.inr (.inr rfl))
  | member onward _ _ _ _ _ _ => exact ends_of_blanks onward (.inl rfl)

/-- Blanks before a value are part of its spelling. -/
theorem Spells.after_blanks {tree : Tree} {input between rest : Bytes}
    (before : Blanks input between) (spelled : Spells (.value tree) between rest) :
    Spells (.value tree) input rest := by
  cases spelled with
  | null blanks => exact .null (before.trans blanks)
  | boolean blanks => exact .boolean (before.trans blanks)
  | number isNumber blanks => exact .number isNumber (before.trans blanks)
  | text blanks spelled meant => exact .text (before.trans blanks) spelled meant
  | list blanks items => exact .list (before.trans blanks) items
  | object blanks inner => exact .object (before.trans blanks) inner

theorem Spells.later_members {members : List (Option String × Tree)} {input atMember rest : Bytes}
    (blanks : Blanks input (comma :: atMember)) (isNonempty : members ≠ [])
    (spelled : Spells (.members true members) atMember rest) :
    Spells (.members false members) input rest := by
  cases spelled with
  | closedObject => exact absurd rfl isNonempty
  | member onward nameBlanks named meant colonBlanks value others =>
      have same : atMember = _ := onward
      subst same
      exact .member blanks nameBlanks named meant colonBlanks value others

/-- The byte that a value of some kind may begin with. -/
def Tree.Opens : Tree → UInt8 → Prop
  | .null, byte => byte = letterN
  | .boolean _, byte => byte = letterT ∨ byte = letterF
  | .number, byte => byte = minus ∨ isDigitByte byte = true
  | .text _, byte => byte = quote
  | .list _, byte => byte = openList
  | .object _, byte => byte = openObject

/-- Behind the blanks before a value there is its first byte, from which on it is spelled as
well. -/
theorem Spells.begins {tree : Tree} {input rest : Bytes}
    (spelled : Spells (.value tree) input rest) :
    ∃ byte others, skipSpace input = byte :: others ∧ tree.Opens byte ∧
      Spells (.value tree) (byte :: others) rest := by
  cases spelled with
  | null blanks => exact ⟨_, _, blanks.skipSpace rfl, rfl, .null (.refl _)⟩
  | @boolean value _ _ blanks =>
      cases value with
      | true => exact ⟨_, _, blanks.skipSpace rfl, .inl rfl, .boolean (.refl _)⟩
      | false => exact ⟨_, _, blanks.skipSpace rfl, .inr rfl, .boolean (.refl _)⟩
  | @number text _ rest isNumber blanks =>
      obtain ⟨byte, others, bytes, isSign | isDigit⟩ := isNumber.begins rest
      · subst isSign
        rw [bytes] at blanks
        exact ⟨_, _, blanks.skipSpace rfl, .inl rfl, .number isNumber (bytes ▸ .refl _)⟩
      · rw [bytes] at blanks
        exact ⟨_, _, blanks.skipSpace (isSpace_of_isDigitByte isDigit), .inr isDigit,
          .number isNumber (bytes ▸ .refl _)⟩
  | text blanks spelled meant =>
      exact ⟨_, _, blanks.skipSpace rfl, rfl, .text (.refl _) spelled meant⟩
  | list blanks items => exact ⟨_, _, blanks.skipSpace rfl, rfl, .list (.refl _) items⟩
  | object blanks inner => exact ⟨_, _, blanks.skipSpace rfl, rfl, .object (.refl _) inner⟩

theorem Tree.Opens.ne {tree : Tree} {byte mark : UInt8} (opens : tree.Opens byte)
    (closes : mark = closeList ∨ mark = closeObject) : byte ≠ mark := by
  rintro rfl
  cases tree with
  | number =>
      rcases opens with isMinus | isDigit
      · rcases closes with rfl | rfl <;> cases isMinus
      · rcases closes with rfl | rfl <;> cases isDigit
  | boolean value =>
      rcases opens with isTrue | isFalse
      · rcases closes with rfl | rfl <;> cases isTrue
      · rcases closes with rfl | rfl <;> cases isFalse
  | null | text | list | object => rcases closes with rfl | rfl <;> cases opens

end PromptRelay.Json
