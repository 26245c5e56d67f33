import Mathlib.Data.List.Induction
import Mathlib.Data.Nat.Digits.Defs
import PromptRelay.Text.Blank
import PromptRelay.Text.Natural

/-!
Contract: the number that a run of decimal digits spells, and how it is read up to a bound.

Owns:
- the number of digits in base ten, however many there are;
- that checking a value each time it grows comes to checking it once at the end;
- the texts that spell a natural number, which are read if and only if it does not exceed
  the bound;
- that the decimal notation of a number spells that number.

Does not own: negative numbers, and which bound holds where.
-/

namespace PromptRelay

open Text

/-! ## Digits -/

theorem isNumeral_iff (cs : List Char) :
    isNumeral cs = true ↔ cs ≠ [] ∧ ∀ c ∈ cs, isDigit c = true := by
  simp [isNumeral, List.isEmpty_eq_false_iff]

/-- The number that digits spell in base ten, however many there are. -/
def numberOf (digits : List Char) : Nat :=
  Nat.ofDigits 10 (digits.map digitValue).reverse

theorem decimalValue_concat (digits : List Char) (digit : Char) :
    decimalValue (digits ++ [digit]) = 10 * decimalValue digits + digitValue digit := by
  rw [decimalValue, List.foldl_append]
  rfl

theorem decimalValue_eq_numberOf (digits : List Char) :
    decimalValue digits = numberOf digits := by
  induction digits using List.reverseRecOn with
  | nil => rfl
  | append_singleton digits digit inductionHypothesis =>
      rw [decimalValue_concat, inductionHypothesis, numberOf, numberOf, List.map_append,
        List.reverse_append]
      change _ = Nat.ofDigits 10 (digitValue digit :: (digits.map digitValue).reverse)
      rw [Nat.ofDigits_cons]
      exact Nat.add_comm _ _

/-! ## Checked growth -/

/-- A value that is checked each time it grows comes to what it grows to without checks, if that
passes, and to nothing otherwise. This takes that what fails once does not pass later. -/
theorem foldlM_checked {α β : Type} (grow : β → α → β) (Passes : β → Prop) [DecidablePred Passes]
    {start : β} (begins : Passes start)
    (lasting : ∀ (xs : List α) x,
      Passes (grow (xs.foldl grow start) x) → Passes (xs.foldl grow start))
    (xs : List α) :
    xs.foldlM (fun value x => if Passes (grow value x) then some (grow value x) else none) start =
      if Passes (xs.foldl grow start) then some (xs.foldl grow start) else none := by
  induction xs using List.reverseRecOn with
  | nil => exact (if_pos begins).symm
  | append_singleton xs x inductionHypothesis =>
      rw [List.foldlM_append, inductionHypothesis, List.foldl_append, List.foldl_cons,
        List.foldl_nil]
      by_cases passed : Passes (xs.foldl grow start)
      · rw [if_pos passed]
        exact bind_pure (m := Option) _
      · have failsLater := mt (lasting xs x) passed
        rw [if_neg passed, if_neg failsLater]
        rfl

/-- A number that exceeds the bound does so with further digits, too. -/
theorem foldlM_pushDigit? (bound : Nat) (digits : List Char) :
    digits.foldlM (pushDigit? bound) 0 =
      if numberOf digits ≤ bound then some (numberOf digits) else none := by
  rw [← decimalValue_eq_numberOf]
  refine foldlM_checked (fun value digit => 10 * value + digitValue digit) (· ≤ bound)
    (Nat.zero_le bound) ?_ digits
  intro shorter digit held
  change 10 * decimalValue shorter + digitValue digit ≤ bound at held
  change decimalValue shorter ≤ bound
  omega

/-! ## Spelling -/

/-- The texts that spell a natural number: one or more digits, behind a plus sign or none. -/
inductive SpellsNatural : (text : List Char) → (number : Nat) → Prop where
  | unsigned {digits : List Char} (isNonempty : digits ≠ []) (areDigits : ∀ c ∈ digits, isDigit c) :
      SpellsNatural digits (numberOf digits)
  | positive {digits : List Char} (isNonempty : digits ≠ []) (areDigits : ∀ c ∈ digits, isDigit c) :
      SpellsNatural ('+' :: digits) (numberOf digits)

theorem isBlank_of_isDigit {c : Char} (digit : isDigit c = true) : isBlank c = false := by
  have inRange : 48 ≤ c.toNat ∧ c.toNat ≤ 57 := by
    simpa [isDigit, Char.le_def, UInt32.le_iff_toNat_le] using digit
  rw [Bool.eq_false_iff]
  intro blank
  simp only [isBlank, Bool.or_eq_true, Bool.and_eq_true, decide_eq_true_eq, beq_iff_eq] at blank
  omega

theorem SpellsNatural.isBlank_eq_false {text : List Char} {number : Nat}
    (spelled : SpellsNatural text number) {c : Char} (member : c ∈ text) : isBlank c = false := by
  cases spelled with
  | unsigned isNonempty areDigits => exact isBlank_of_isDigit (areDigits c member)
  | positive isNonempty areDigits =>
      rcases List.mem_cons.mp member with rfl | inDigits
      · decide
      · exact isBlank_of_isDigit (areDigits c inDigits)

/-! ## Reading -/

theorem readNumeral_eq_some_iff {bound : Nat} {digits : List Char} {number : Nat} :
    (if isNumeral digits then digits.foldlM (pushDigit? bound) 0 else none) = some number ↔
      (digits ≠ [] ∧ ∀ c ∈ digits, isDigit c) ∧ numberOf digits = number ∧ number ≤ bound := by
  rw [← isNumeral_iff, foldlM_pushDigit?]
  constructor
  · intro read
    obtain ⟨numeral, read⟩ := Option.ite_none_right_eq_some.mp read
    obtain ⟨held, same⟩ := Option.ite_none_right_eq_some.mp read
    cases same
    exact ⟨numeral, rfl, held⟩
  · rintro ⟨numeral, rfl, held⟩
    rw [if_pos numeral, if_pos held]

theorem readNatural?_eq_some_iff {bound : Nat} {text : List Char} {number : Nat} :
    readNatural? bound text = some number ↔ SpellsNatural text number ∧ number ≤ bound := by
  constructor
  · intro read
    unfold readNatural? at read
    dsimp only at read
    split at read
    case h_1 digits =>
      obtain ⟨⟨isNonempty, areDigits⟩, rfl, held⟩ := readNumeral_eq_some_iff.mp read
      exact ⟨.positive isNonempty areDigits, held⟩
    case h_2 =>
      obtain ⟨⟨isNonempty, areDigits⟩, rfl, held⟩ := readNumeral_eq_some_iff.mp read
      exact ⟨.unsigned isNonempty areDigits, held⟩
  · rintro ⟨spelled, held⟩
    cases spelled with
    | positive isNonempty areDigits =>
        exact readNumeral_eq_some_iff.mpr ⟨⟨isNonempty, areDigits⟩, rfl, held⟩
    | unsigned isNonempty areDigits =>
        unfold readNatural?
        dsimp only
        split
        · -- A plus sign is no digit.
          exact absurd (areDigits '+' List.mem_cons_self) (by decide)
        · exact readNumeral_eq_some_iff.mpr ⟨⟨isNonempty, areDigits⟩, rfl, held⟩

theorem SpellsNatural.unique {text : List Char} {number other : Nat}
    (spelled : SpellsNatural text number) (spelledOther : SpellsNatural text other) :
    number = other := by
  have read := readNatural?_eq_some_iff.mpr ⟨spelled, Nat.le_max_left number other⟩
  have readOther := readNatural?_eq_some_iff.mpr ⟨spelledOther, Nat.le_max_right number other⟩
  exact Option.some.inj (read.symm.trans readOther)

/-! ## Decimal notation -/

theorem numberOf_toDigits (number : Nat) : numberOf (Nat.toDigits 10 number) = number := by
  rw [← decimalValue_eq_numberOf]
  exact Nat.ofDigitChars_toDigits (by decide) (by decide)

theorem isDigit_of_mem_toDigits {number : Nat} {c : Char} (member : c ∈ Nat.toDigits 10 number) :
    isDigit c = true := by
  have digit := Nat.isDigit_of_mem_toDigits (by decide) (by decide) member
  simpa [isDigit, Char.isDigit, Char.le_def] using digit

theorem spellsNatural_toString (number : Nat) :
    SpellsNatural (toString number).toList number := by
  have spelled : SpellsNatural (Nat.toDigits 10 number) (numberOf (Nat.toDigits 10 number)) :=
    .unsigned Nat.toDigits_ne_nil fun _ => isDigit_of_mem_toDigits
  rwa [numberOf_toDigits, ← Nat.toList_repr, ← Nat.toString_eq_repr] at spelled

end PromptRelay
