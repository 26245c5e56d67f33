import Mathlib.Data.List.TakeWhile
import PromptRelay.Json.Record
import PromptRelay.Proofs.Json.Numbers

/-!
Contract: blanks behind a text have nothing to do with whether and as what it is read.

Owns:
- places in two texts of which one has blanks where the other ends;
- readers that find the same in both, or faults;
- that the readers of tokens, choices, optional values and records are such readers, and that
  values of any shape are skipped alike.

Does not own: blanks before a text, and which fault a text has.

A string, a keyword or a number that a text ends in is not completed by blanks, so that what is
missing without them is missing with them. Fuel runs out in neither text: a step takes a byte.
-/

namespace PromptRelay.Json

open Text (Bytes)
open Result (ok_bind)

/-! ## Blanks at the end -/

/-- The other text is this one with blanks behind it. -/
def BlankBehind (text other : Bytes) : Prop :=
  ∃ blanks, (∀ byte ∈ blanks, isSpace byte = true) ∧ other = text ++ blanks

/-- Both readers find something, and what they find is related, or both find a fault. -/
inductive Alike (related : α → β → Prop) : Except Fault α → Except Fault β → Prop where
  | ok {found : α} {other : β} (same : related found other) : Alike related (.ok found) (.ok other)
  | error (fault other : Fault) : Alike related (.error fault) (.error other)

/-- What is left of a text of at most so many bytes, and of the other text. -/
structure Left (bound : Nat) (rest other : Bytes) : Prop where
  blankBehind : BlankBehind rest other
  length_le : rest.length ≤ bound

/-- The same value, and what is left behind it. -/
def Found (bound : Nat) (found other : α × Bytes) : Prop :=
  found.1 = other.1 ∧ Left bound found.2 other.2

/-- A reader to which blanks at the end make no difference. -/
def IsTolerant (read : Reader α) : Prop :=
  ∀ text other, BlankBehind text other → Alike (Found text.length) (read text) (read other)

theorem BlankBehind.cons {text other : Bytes} (behind : BlankBehind text other) (byte : UInt8) :
    BlankBehind (byte :: text) (byte :: other) := by
  obtain ⟨blanks, blank, rfl⟩ := behind
  exact ⟨blanks, blank, rfl⟩

theorem BlankBehind.length_le {text other : Bytes} (behind : BlankBehind text other) :
    text.length ≤ other.length := by
  obtain ⟨blanks, _, rfl⟩ := behind
  rw [List.length_append]
  exact Nat.le_add_right _ _

/-- Either both texts go on with the same byte, or only the blanks are left. -/
theorem BlankBehind.cases {text other : Bytes} (behind : BlankBehind text other) :
    (text = [] ∧ ∀ byte ∈ other, isSpace byte = true) ∨
      ∃ byte rest otherRest, text = byte :: rest ∧ other = byte :: otherRest ∧
        BlankBehind rest otherRest := by
  obtain ⟨blanks, blank, rfl⟩ := behind
  cases text with
  | nil => exact .inl ⟨rfl, blank⟩
  | cons byte rest => exact .inr ⟨byte, rest, _, rfl, rfl, blanks, blank, rfl⟩

theorem Left.mono {bound wider : Nat} {rest other : Bytes} (left : Left bound rest other)
    (within : bound ≤ wider) : Left wider rest other :=
  ⟨left.blankBehind, Nat.le_trans left.length_le within⟩

namespace Alike

variable {related : α → β → Prop}

theorem mono {wider : α → β → Prop} {short : Except Fault α} {long : Except Fault β}
    (alike : Alike related short long)
    (within : ∀ found other, related found other → wider found other) :
    Alike wider short long := by
  cases alike with
  | ok same => exact .ok (within _ _ same)
  | error fault other => exact .error fault other

theorem bind {relatedNext : α' → β' → Prop} {short : Except Fault α} {long : Except Fault β}
    {next : α → Except Fault α'} {nextLong : β → Except Fault β'}
    (first : Alike related short long)
    (onward : ∀ found other, related found other →
      Alike relatedNext (next found) (nextLong other)) :
    Alike relatedNext (short >>= next) (long >>= nextLong) := by
  cases first with
  | ok same =>
      rw [ok_bind, ok_bind]
      exact onward _ _ same
  | error fault other => exact .error fault other

theorem ite {condition : Prop} [Decidable condition] {short other : Except Fault α}
    {long otherLong : Except Fault β} (holds : condition → Alike related short long)
    (fails : ¬ condition → Alike related other otherLong) :
    Alike related (if condition then short else other)
      (if condition then long else otherLong) := by
  by_cases decided : condition
  · rw [if_pos decided, if_pos decided]
    exact holds decided
  · rw [if_neg decided, if_neg decided]
    exact fails decided

theorem of_error {fault : Fault} {long : Except Fault β} (failed : ∃ other, long = .error other) :
    Alike related (.error fault) long := by
  obtain ⟨other, rfl⟩ := failed
  exact .error fault other

end Alike

/-! ## Blank bytes -/

theorem isSpace_cases {byte : UInt8} (blank : isSpace byte = true) :
    byte = 0x20 ∨ byte = 0x0A ∨ byte = 0x09 ∨ byte = 0x0D := by
  simpa [isSpace, or_assoc] using blank

theorem ne_of_isSpace {byte mark : UInt8} (blank : isSpace byte = true)
    (notBlank : isSpace mark = false) : byte ≠ mark := by
  rintro rfl
  rw [blank] at notBlank
  cases notBlank

theorem not_isDigitByte_of_isSpace {byte : UInt8} (blank : isSpace byte = true) :
    ¬ isDigitByte byte = true := by
  rcases isSpace_cases blank with rfl | rfl | rfl | rfl <;> decide

theorem hexValue?_of_isSpace {byte : UInt8} (blank : isSpace byte = true) :
    hexValue? byte = none := by
  rcases isSpace_cases blank with rfl | rfl | rfl | rfl <;> rfl

theorem shortEscape?_of_isSpace {byte : UInt8} (blank : isSpace byte = true) :
    shortEscape? byte = none := by
  rcases isSpace_cases blank with rfl | rfl | rfl | rfl <;> rfl

/-- Blanks are passed over in both texts, and behind them there is the same byte or the end. -/
theorem BlankBehind.skipSpace_cases {text other : Bytes} (behind : BlankBehind text other) :
    (skipSpace text = [] ∧ skipSpace other = []) ∨
      ∃ byte rest otherRest, skipSpace text = byte :: rest ∧
        skipSpace other = byte :: otherRest ∧ BlankBehind rest otherRest ∧
        rest.length < text.length := by
  induction text generalizing other with
  | nil =>
      obtain ⟨blanks, blank, rfl⟩ := behind
      exact .inl ⟨rfl, List.dropWhile_eq_nil_iff.mpr blank⟩
  | cons byte rest inductionHypothesis =>
      obtain ⟨blanks, blank, rfl⟩ := behind
      have behindRest : BlankBehind rest (rest ++ blanks) := ⟨blanks, blank, rfl⟩
      rw [List.cons_append, skipSpace, skipSpace]
      by_cases isBlank : isSpace byte = true
      · rw [List.dropWhile_cons_of_pos isBlank, List.dropWhile_cons_of_pos isBlank]
        rcases inductionHypothesis behindRest with nothing | ⟨first, left, otherLeft, found,
          otherFound, onward, shorter⟩
        · exact .inl nothing
        · exact .inr ⟨first, left, otherLeft, found, otherFound, onward, Nat.lt_succ_of_lt shorter⟩
      · rw [List.dropWhile_cons_of_neg isBlank, List.dropWhile_cons_of_neg isBlank]
        exact .inr ⟨byte, rest, _, rfl, rfl, behindRest, Nat.lt_succ_self _⟩

theorem BlankBehind.afterSpace {related : α → β → Prop} {text other : Bytes}
    (behind : BlankBehind text other) {next : UInt8 → Bytes → Except Fault α}
    {otherNext : UInt8 → Bytes → Except Fault β}
    (onward : ∀ byte rest otherRest, BlankBehind rest otherRest → rest.length < text.length →
      Alike related (next byte rest) (otherNext byte otherRest)) :
    Alike related
      (match skipSpace text with
      | [] => .error .truncated
      | byte :: rest => next byte rest)
      (match skipSpace other with
      | [] => .error .truncated
      | byte :: rest => otherNext byte rest) := by
  rcases behind.skipSpace_cases with ⟨none, otherNone⟩ | ⟨byte, rest, otherRest, found,
    otherFound, behindByte, shorter⟩
  · rw [none, otherNone]
    exact .error _ _
  · rw [found, otherFound]
    exact onward byte rest otherRest behindByte shorter

/-! ## Tokens -/

theorem expect_tolerant {expected : Bytes} (noBlank : expected.any isSpace = false)
    {text other : Bytes} (behind : BlankBehind text other) :
    Alike (Left text.length) (expect expected text) (expect expected other) := by
  induction expected generalizing text other with
  | nil => exact .ok ⟨behind, Nat.le_refl _⟩
  | cons byte expected inductionHypothesis =>
      rw [List.any_cons, Bool.or_eq_false_iff] at noBlank
      rcases behind.cases with ⟨rfl, blank⟩ | ⟨found, rest, otherRest, rfl, rfl, onward⟩
      · refine .of_error ?_
        cases other with
        | nil => exact ⟨_, rfl⟩
        | cons first others =>
            rw [List.forall_mem_cons] at blank
            exact ⟨_, if_neg (ne_of_isSpace blank.1 noBlank.1).symm⟩
      · rw [expect, expect]
        split
        · exact (inductionHypothesis noBlank.2 onward).mono fun _ _ left =>
            left.mono (Nat.le_succ _)
        · exact .error _ _

/-- A blank among the four digits of a unit is a fault, like the end of the text there. -/
theorem readUnit_of_blank {input : Bytes} (blank : ∃ byte ∈ input.take 4, isSpace byte = true) :
    ∃ fault, readUnit input = .error fault := by
  match input with
  | [] | [_] | [_, _] | [_, _, _] => exact ⟨_, rfl⟩
  | a :: b :: c :: d :: rest =>
      obtain ⟨byte, member, isBlank⟩ := blank
      have noDigit := hexValue?_of_isSpace isBlank
      refine ⟨.malformed, ?_⟩
      rw [readUnit]
      split
      case h_1 first second third fourth =>
          simp only [List.take_succ_cons, List.take_zero, List.mem_cons, List.not_mem_nil,
            or_false] at member
          rcases member with rfl | rfl | rfl | rfl
          · exact absurd (noDigit.symm.trans first) nofun
          · exact absurd (noDigit.symm.trans second) nofun
          · exact absurd (noDigit.symm.trans third) nofun
          · exact absurd (noDigit.symm.trans fourth) nofun
      case h_2 => rfl

theorem readUnit_tolerant : IsTolerant readUnit := by
  rintro text other ⟨blanks, blank, rfl⟩
  -- A text of less than four bytes goes on with a blank within these, or ends.
  have early (few : text.length < 4) : ∃ fault, readUnit (text ++ blanks) = .error fault := by
    cases blanks with
    | nil =>
        rw [List.append_nil]
        match text with
        | [] | [_] | [_, _] | [_, _, _] => exact ⟨_, rfl⟩
    | cons byte blanks =>
        refine readUnit_of_blank ⟨byte, ?_, blank byte List.mem_cons_self⟩
        rw [List.take_append, List.mem_append]
        refine .inr ?_
        obtain ⟨left, enough⟩ : ∃ left, 4 - text.length = left + 1 := ⟨3 - text.length, by omega⟩
        rw [enough]
        exact List.mem_cons_self
  match text with
  | [] | [_] | [_, _] | [_, _, _] => exact .of_error (early (by simp))
  | a :: b :: c :: d :: rest =>
      rw [List.cons_append, List.cons_append, List.cons_append, List.cons_append, readUnit,
        readUnit]
      split
      · exact .ok ⟨rfl, ⟨blanks, blank, rfl⟩, by simp; omega⟩
      · exact .error _ _

theorem readUnicodeEscape_tolerant : IsTolerant readUnicodeEscape := by
  intro text other behind
  refine (readUnit_tolerant text other behind).bind ?_
  rintro ⟨unit, rest⟩ ⟨_, otherRest⟩ ⟨rfl, left⟩
  show Alike _ (if _ then _ else if _ then _ else _) (if _ then _ else if _ then _ else _)
  split
  · exact .error _ _
  · split
    · exact .ok ⟨rfl, left⟩
    · refine (expect_tolerant rfl left.blankBehind).bind fun next otherNext leftNext => ?_
      refine (readUnit_tolerant next otherNext leftNext.blankBehind).bind ?_
      rintro ⟨low, last⟩ ⟨_, otherLast⟩ ⟨rfl, leftLast⟩
      dsimp only
      split
      · exact .error _ _
      · exact .ok ⟨rfl, leftLast.mono (Nat.le_trans leftNext.length_le left.length_le)⟩

theorem readEscape_tolerant : IsTolerant readEscape := by
  intro text other behind
  rcases behind.cases with ⟨rfl, blank⟩ | ⟨letter, rest, otherRest, rfl, rfl, onward⟩
  · refine .of_error ?_
    cases other with
    | nil => exact ⟨_, rfl⟩
    | cons first others =>
        rw [List.forall_mem_cons] at blank
        rw [readEscape, if_neg (ne_of_isSpace blank.1 rfl), shortEscape?_of_isSpace blank.1]
        exact ⟨_, rfl⟩
  · rw [readEscape, readEscape]
    refine .ite (fun _ => ?_) fun _ => ?_
    · refine (readUnicodeEscape_tolerant rest otherRest onward).bind ?_
      rintro ⟨c, next⟩ ⟨_, otherNext⟩ ⟨rfl, left⟩
      exact .ok ⟨rfl, left.mono (Nat.le_succ _)⟩
    · split
      · exact .ok ⟨rfl, onward, Nat.le_succ _⟩
      · exact .error _ _

/-- Blanks do not close a string. -/
theorem readContent_blank {blanks : Bytes} (blank : ∀ byte ∈ blanks, isSpace byte = true)
    (fuel : Nat) : ∃ fault, readContent fuel blanks = .error fault := by
  induction blanks generalizing fuel with
  | nil => cases fuel <;> exact ⟨_, rfl⟩
  | cons byte blanks inductionHypothesis =>
      rw [List.forall_mem_cons] at blank
      cases fuel with
      | zero => exact ⟨_, rfl⟩
      | succ fuel =>
          rw [readContent, if_neg (ne_of_isSpace blank.1 rfl), if_neg (ne_of_isSpace blank.1 rfl)]
          obtain ⟨fault, failed⟩ := inductionHypothesis blank.2 fuel
          rw [failed]
          split
          · exact ⟨_, rfl⟩
          · exact ⟨_, rfl⟩

/-- By induction on the fuel, which lasts to the end of the text. -/
theorem readContent_tolerant {fuel otherFuel : Nat} {text other : Bytes}
    (behind : BlankBehind text other) (enough : text.length < fuel) (more : fuel ≤ otherFuel) :
    Alike (Found text.length) (readContent fuel text) (readContent otherFuel other) := by
  induction fuel generalizing otherFuel text other with
  | zero => exact absurd enough (Nat.not_lt_zero _)
  | succ fuel inductionHypothesis =>
      obtain ⟨otherFuel, rfl⟩ : ∃ left, otherFuel = left + 1 := ⟨otherFuel - 1, by omega⟩
      rcases behind.cases with ⟨rfl, blank⟩ | ⟨byte, rest, otherRest, rfl, rfl, onward⟩
      · exact .of_error (readContent_blank blank _)
      · rw [List.length_cons] at enough ⊢
        rw [readContent, readContent]
        refine .ite (fun _ => ?_) fun _ => ?_
        · exact .ok ⟨rfl, onward, Nat.le_succ _⟩
        · refine .ite (fun _ => ?_) fun _ => ?_
          · refine (readEscape_tolerant rest otherRest onward).bind ?_
            rintro ⟨start, next⟩ ⟨_, otherNext⟩ ⟨rfl, left⟩
            have shorter := left.length_le
            refine (inductionHypothesis left.blankBehind (by omega) (by omega)).bind ?_
            rintro ⟨content, last⟩ ⟨_, otherLast⟩ ⟨rfl, leftLast⟩
            exact .ok ⟨rfl, leftLast.mono (by omega)⟩
          · refine .ite (fun _ => ?_) fun _ => ?_
            · exact .error _ _
            · refine (inductionHypothesis onward (by omega) (by omega)).bind ?_
              rintro ⟨content, last⟩ ⟨_, otherLast⟩ ⟨rfl, leftLast⟩
              exact .ok ⟨rfl, leftLast.mono (Nat.le_succ _)⟩

theorem readQuoted_tolerant : IsTolerant readQuoted := by
  intro text other behind
  have more := Nat.succ_le_succ behind.length_le
  refine (readContent_tolerant behind (Nat.lt_succ_self _) more).bind ?_
  rintro ⟨content, rest⟩ ⟨_, otherRest⟩ ⟨rfl, left⟩
  dsimp only
  split
  · exact .ok ⟨rfl, left⟩
  · exact .error _ _

/-! ## Values of a known shape -/

theorem readString_tolerant : IsTolerant readString := by
  intro text other behind
  refine behind.afterSpace fun byte rest otherRest onward shorter => ?_
  split
  · exact (readQuoted_tolerant rest otherRest onward).mono fun _ _ same =>
      ⟨same.1, same.2.mono (Nat.le_of_lt shorter)⟩
  · exact .error _ _

theorem readMark_tolerant (mark : UInt8) {text other : Bytes} (behind : BlankBehind text other) :
    Alike (Left text.length) (readMark mark text) (readMark mark other) := by
  refine behind.afterSpace fun byte rest otherRest onward shorter => ?_
  split
  · exact .ok ⟨onward, Nat.le_of_lt shorter⟩
  · exact .error _ _

theorem readNull_tolerant {text other : Bytes} (behind : BlankBehind text other) :
    Alike (Left text.length) (readNull text) (readNull other) := by
  refine behind.afterSpace fun byte rest otherRest onward shorter => ?_
  split
  · exact (expect_tolerant rfl onward).mono fun _ _ left =>
      left.mono (Nat.le_of_lt shorter)
  · exact .error _ _

theorem readOptional_tolerant {read : Reader α} (tolerant : IsTolerant read) :
    IsTolerant (readOptional read) := by
  intro text other behind
  refine behind.afterSpace fun byte rest otherRest onward shorter => ?_
  split
  · refine (expect_tolerant rfl onward).bind fun next otherNext left => ?_
    exact .ok ⟨rfl, left.mono (Nat.le_of_lt shorter)⟩
  · refine (tolerant _ _ (onward.cons byte)).bind ?_
    rintro ⟨value, next⟩ ⟨_, otherNext⟩ ⟨rfl, left⟩
    exact .ok ⟨rfl, left.mono shorter⟩

theorem readChoice_tolerant (choices : List (String × α)) : IsTolerant (readChoice choices) := by
  intro text other behind
  refine behind.afterSpace fun byte rest otherRest onward shorter => ?_
  split
  · refine (readQuoted_tolerant rest otherRest onward).bind ?_
    rintro ⟨name, next⟩ ⟨_, otherNext⟩ ⟨rfl, left⟩
    dsimp only
    split
    · exact .ok ⟨rfl, left.mono (Nat.le_of_lt shorter)⟩
    · exact .error _ _
  · split
    · refine (readString_tolerant rest otherRest onward).bind ?_
      rintro ⟨name, next⟩ ⟨_, otherNext⟩ ⟨rfl, left⟩
      dsimp only
      split
      · refine (readMark_tolerant colon left.blankBehind).bind fun _ _ leftColon => ?_
        refine (readNull_tolerant leftColon.blankBehind).bind fun _ _ leftNull => ?_
        refine (readMark_tolerant closeObject leftNull.blankBehind).bind fun _ _ leftClosed => ?_
        have shorterName := left.length_le
        have shorterColon := leftColon.length_le
        have shorterNull := leftNull.length_le
        exact .ok ⟨rfl, leftClosed.mono (by omega)⟩
      · exact .error _ _
    · exact .error _ _

theorem update_tolerant {read : Reader α} (tolerant : IsTolerant read) (update : α → σ) :
    IsTolerant (fun input => do let (value, rest) ← read input; .ok (update value, rest)) := by
  intro text other behind
  refine (tolerant text other behind).bind ?_
  rintro ⟨value, rest⟩ ⟨_, otherRest⟩ ⟨rfl, left⟩
  exact .ok ⟨rfl, left⟩

/-! ## Numbers -/

theorem BlankBehind.digits {text other : Bytes} (behind : BlankBehind text other) :
    text.takeWhile isDigitByte = other.takeWhile isDigitByte ∧
      Left text.length (text.dropWhile isDigitByte) (other.dropWhile isDigitByte) := by
  obtain ⟨blanks, blank, rfl⟩ := behind
  have noDigit : blanks.takeWhile isDigitByte = [] ∧ blanks.dropWhile isDigitByte = blanks := by
    cases blanks with
    | nil => exact ⟨rfl, rfl⟩
    | cons byte blanks =>
        have first := not_isDigitByte_of_isSpace (blank byte List.mem_cons_self)
        exact ⟨List.takeWhile_cons_of_neg first, List.dropWhile_cons_of_neg first⟩
  induction text with
  | nil => exact ⟨noDigit.1.symm, ⟨blanks, blank, noDigit.2⟩, Nat.le_refl _⟩
  | cons byte rest inductionHypothesis =>
      rw [List.cons_append]
      by_cases isDigit : isDigitByte byte = true
      · rw [List.takeWhile_cons_of_pos isDigit, List.takeWhile_cons_of_pos isDigit,
          List.dropWhile_cons_of_pos isDigit, List.dropWhile_cons_of_pos isDigit,
          inductionHypothesis.1]
        exact ⟨rfl, inductionHypothesis.2.mono (Nat.le_succ _)⟩
      · rw [List.takeWhile_cons_of_neg isDigit, List.takeWhile_cons_of_neg isDigit,
          List.dropWhile_cons_of_neg isDigit, List.dropWhile_cons_of_neg isDigit]
        exact ⟨rfl, ⟨blanks, blank, rfl⟩, Nat.le_refl _⟩

/-- Digits that there have to be, and what is made of them. -/
theorem digits_alike {related : β → β → Prop} (atEnd : Fault) (give : Bytes → Bytes → β)
    {text other : Bytes} (behind : BlankBehind text other)
    (same : ∀ digits rest otherRest, Left text.length rest otherRest →
      related (give digits rest) (give digits otherRest)) :
    let digits (input : Bytes) : Except Fault β :=
      match input with
      | [] => .error atEnd
      | byte :: _ =>
        if isDigitByte byte then
          .ok (give (input.takeWhile isDigitByte) (input.dropWhile isDigitByte))
        else
          .error .malformed
    Alike related (digits text) (digits other) := by
  intro digits
  rcases behind.cases with ⟨rfl, blank⟩ | ⟨byte, rest, otherRest, rfl, rfl, onward⟩
  · refine .of_error ?_
    cases other with
    | nil => exact ⟨_, rfl⟩
    | cons first others =>
        exact ⟨_, if_neg (not_isDigitByte_of_isSpace (blank first List.mem_cons_self))⟩
  · obtain ⟨sameDigits, left⟩ := behind.digits
    dsimp only [digits]
    split
    · rw [← sameDigits]
      exact .ok (same _ _ _ left)
    · exact .error _ _

/-- The digits before the point are at least one. -/
theorem wholePart_tolerant (atEnd : Fault) {text other : Bytes} (behind : BlankBehind text other) :
    Alike (Found (text.length - 1)) (wholePart atEnd text) (wholePart atEnd other) := by
  rcases behind.cases with ⟨rfl, blank⟩ | ⟨byte, rest, otherRest, rfl, rfl, onward⟩
  · refine .of_error ?_
    cases other with
    | nil => exact ⟨_, rfl⟩
    | cons first others =>
        have isBlank := blank first List.mem_cons_self
        have notZero : first ≠ zero := ne_of_isSpace isBlank rfl
        simp only [wholePart, if_neg notZero, if_neg (not_isDigitByte_of_isSpace isBlank)]
        exact ⟨_, rfl⟩
  · simp only [wholePart, List.length_cons, Nat.add_sub_cancel]
    split
    · -- A zero, behind which there is no digit.
      rcases onward.cases with ⟨rfl, blank⟩ | ⟨next, last, otherLast, rfl, rfl, _⟩
      · cases otherRest with
        | nil => exact .ok ⟨rfl, onward, Nat.zero_le _⟩
        | cons first others =>
            have isBlank := blank first List.mem_cons_self
            simp only [if_neg (not_isDigitByte_of_isSpace isBlank)]
            exact .ok ⟨rfl, onward, Nat.zero_le _⟩
      · dsimp only
        split
        · exact .error _ _
        · exact .ok ⟨rfl, onward, Nat.le_refl _⟩
    · obtain ⟨sameDigits, left⟩ := onward.digits
      split
      case isTrue isDigit =>
        rw [List.takeWhile_cons_of_pos isDigit, List.takeWhile_cons_of_pos isDigit,
          List.dropWhile_cons_of_pos isDigit, List.dropWhile_cons_of_pos isDigit, sameDigits]
        exact .ok ⟨rfl, left⟩
      case isFalse => exact .error _ _

theorem fractionPart_tolerant (atEnd : Fault) : IsTolerant (fractionPart atEnd) := by
  intro text other behind
  rcases behind.cases with ⟨rfl, blank⟩ | ⟨byte, rest, otherRest, rfl, rfl, onward⟩
  · cases other with
    | nil => exact .ok ⟨rfl, behind, Nat.le_refl _⟩
    | cons first others =>
        have notPoint : first ≠ point := ne_of_isSpace (blank first List.mem_cons_self) rfl
        simp only [fractionPart, if_neg notPoint]
        exact .ok ⟨rfl, behind, Nat.le_refl _⟩
  · simp only [fractionPart]
    split
    · exact digits_alike atEnd Prod.mk onward fun _ _ _ left => ⟨rfl, left.mono (Nat.le_succ _)⟩
    · exact .ok ⟨rfl, behind, Nat.le_refl _⟩

theorem readExponent_tolerant (atEnd : Fault) {text other : Bytes}
    (behind : BlankBehind text other) :
    Alike (fun found otherFound => found.1 = otherFound.1 ∧
        Found text.length found.2 otherFound.2)
      (readExponent atEnd text) (readExponent atEnd other) := by
  rcases behind.cases with ⟨rfl, blank⟩ | ⟨byte, rest, otherRest, rfl, rfl, onward⟩
  · refine .of_error ?_
    cases other with
    | nil => exact ⟨_, rfl⟩
    | cons first others =>
        have isBlank := blank first List.mem_cons_self
        have notPlus : first ≠ plus := ne_of_isSpace isBlank rfl
        have notMinus : first ≠ minus := ne_of_isSpace isBlank rfl
        simp only [readExponent, if_neg notPlus, if_neg notMinus,
          if_neg (not_isDigitByte_of_isSpace isBlank)]
        exact ⟨_, rfl⟩
  · by_cases isPlus : byte = plus
    · simp only [readExponent, if_pos isPlus]
      exact digits_alike atEnd (fun digits rest => (false, digits, rest)) onward
        fun _ _ _ left => ⟨rfl, rfl, left.mono (Nat.le_succ _)⟩
    · by_cases isMinus : byte = minus
      · simp only [readExponent, if_neg isPlus, if_pos isMinus]
        exact digits_alike atEnd (fun digits rest => (true, digits, rest)) onward
          fun _ _ _ left => ⟨rfl, rfl, left.mono (Nat.le_succ _)⟩
      · simp only [readExponent, if_neg isPlus, if_neg isMinus]
        exact digits_alike atEnd (fun digits rest => (false, digits, rest)) behind
          fun _ _ _ left => ⟨rfl, rfl, left⟩

theorem exponentPart_tolerant (atEnd : Fault) (whole fraction : Bytes) :
    IsTolerant (exponentPart atEnd whole fraction) := by
  intro text other behind
  rcases behind.cases with ⟨rfl, blank⟩ | ⟨letter, rest, otherRest, rfl, rfl, onward⟩
  · cases other with
    | nil => exact .ok ⟨rfl, behind, Nat.le_refl _⟩
    | cons first others =>
        have isBlank := blank first List.mem_cons_self
        have notSmall : first ≠ letterE := ne_of_isSpace isBlank rfl
        have notCapital : first ≠ 0x45 := ne_of_isSpace isBlank rfl
        simp only [exponentPart, notSmall, notCapital, decide_false, Bool.or_self,
          Bool.false_eq_true, if_false]
        exact .ok ⟨rfl, behind, Nat.le_refl _⟩
  · simp only [exponentPart]
    split
    · refine (readExponent_tolerant atEnd onward).bind ?_
      rintro ⟨negative, exponent, next⟩ ⟨_, _, otherNext⟩ ⟨rfl, rfl, left⟩
      exact .ok ⟨rfl, left.mono (Nat.le_succ _)⟩
    · exact .ok ⟨rfl, behind, Nat.le_refl _⟩

theorem readNumeral_tolerant (atEnd : Fault) {text other : Bytes}
    (behind : BlankBehind text other) :
    Alike (Found (text.length - 1)) (readNumeral atEnd text) (readNumeral atEnd other) := by
  rw [readNumeral_eq, readNumeral_eq]
  refine (wholePart_tolerant atEnd behind).bind ?_
  rintro ⟨whole, rest⟩ ⟨_, otherRest⟩ ⟨rfl, left⟩
  refine (fractionPart_tolerant atEnd rest otherRest left.blankBehind).bind ?_
  rintro ⟨fraction, next⟩ ⟨_, otherNext⟩ ⟨rfl, leftNext⟩
  refine (exponentPart_tolerant atEnd whole fraction next otherNext leftNext.blankBehind).mono ?_
  rintro _ _ ⟨same, leftLast⟩
  exact ⟨same, leftLast.mono (Nat.le_trans leftNext.length_le left.length_le)⟩

/-! ## Values of any shape -/

theorem skipQuoted_blank {blanks : Bytes} (blank : ∀ byte ∈ blanks, isSpace byte = true)
    (fuel : Nat) : ∃ fault, skipQuoted fuel blanks = .error fault := by
  induction blanks generalizing fuel with
  | nil => cases fuel <;> exact ⟨_, rfl⟩
  | cons byte blanks inductionHypothesis =>
      rw [List.forall_mem_cons] at blank
      cases fuel with
      | zero => exact ⟨_, rfl⟩
      | succ fuel =>
          unfold skipQuoted
          rw [if_neg (ne_of_isSpace blank.1 rfl), if_neg (ne_of_isSpace blank.1 rfl)]
          split
          · exact ⟨_, rfl⟩
          · exact inductionHypothesis blank.2 fuel

theorem skipQuoted_tolerant {fuel otherFuel : Nat} {text other : Bytes}
    (behind : BlankBehind text other) (enough : text.length < fuel) (more : fuel ≤ otherFuel) :
    Alike (Left text.length) (skipQuoted fuel text) (skipQuoted otherFuel other) := by
  induction fuel generalizing otherFuel text other with
  | zero => exact absurd enough (Nat.not_lt_zero _)
  | succ fuel inductionHypothesis =>
      obtain ⟨otherFuel, rfl⟩ : ∃ left, otherFuel = left + 1 := ⟨otherFuel - 1, by omega⟩
      rcases behind.cases with ⟨rfl, blank⟩ | ⟨byte, rest, otherRest, rfl, rfl, onward⟩
      · exact .of_error (skipQuoted_blank blank _)
      · rw [List.length_cons] at enough ⊢
        unfold skipQuoted
        refine .ite (fun _ => ?_) fun _ => ?_
        · exact .ok ⟨onward, Nat.le_succ _⟩
        · refine .ite (fun _ => ?_) fun _ => ?_
          · rcases onward.cases with ⟨rfl, blank⟩ | ⟨letter, next, otherNext, rfl, rfl, behindNext⟩
            · refine .of_error ?_
              cases otherRest with
              | nil => exact ⟨_, rfl⟩
              | cons first others =>
                  have isBlank := blank first List.mem_cons_self
                  have notUnit : first ≠ letterU := ne_of_isSpace isBlank rfl
                  simp only [if_neg notUnit, shortEscape?_of_isSpace isBlank]
                  exact ⟨_, rfl⟩
            · rw [List.length_cons] at enough ⊢
              dsimp only
              refine .ite (fun _ => ?_) fun _ => ?_
              · refine (readUnit_tolerant next otherNext behindNext).bind ?_
                rintro ⟨unit, last⟩ ⟨_, otherLast⟩ ⟨rfl, left⟩
                have shorter := left.length_le
                exact (inductionHypothesis left.blankBehind (by omega) (by omega)).mono
                  fun _ _ leftLast => leftLast.mono (by omega)
              · refine .ite (fun _ => ?_) fun _ => ?_
                · exact (inductionHypothesis behindNext (by omega) (by omega)).mono
                    fun _ _ leftLast => leftLast.mono (by omega)
                · exact .error _ _
          · refine .ite (fun _ => ?_) fun _ => ?_
            · exact .error _ _
            · exact (inductionHypothesis onward (by omega) (by omega)).mono fun _ _ left =>
                left.mono (Nat.le_succ _)

/-- Skipping goes on alike from this place, be that before a value, behind one, or before the
name of a member. -/
structure Skips (bound fuel otherFuel : Nat) (text other : Bytes) : Prop where
  value : ∀ brackets, Alike (Left bound) (skipNested fuel brackets text)
    (skipNested otherFuel brackets other)
  tail : ∀ brackets, Alike (Left bound) (skipNested.skipTail fuel brackets text)
    (skipNested.skipTail otherFuel brackets other)
  name : ∀ brackets, Alike (Left bound) (skipNested.skipName fuel brackets text)
    (skipNested.skipName otherFuel brackets other)

theorem Skips.mono {bound wider fuel otherFuel : Nat} {text other : Bytes}
    (skips : Skips bound fuel otherFuel text other) (within : bound ≤ wider) :
    Skips wider fuel otherFuel text other where
  value brackets := (skips.value brackets).mono fun _ _ left => left.mono within
  tail brackets := (skips.tail brackets).mono fun _ _ left => left.mono within
  name brackets := (skips.name brackets).mono fun _ _ left => left.mono within

section

variable {fuel otherFuel : Nat} {text other : Bytes}
  (further : ∀ rest otherRest, Left (text.length - 1) rest otherRest → 0 < text.length →
    Skips text.length fuel otherFuel rest otherRest)
include further

/-- A value takes at least its first byte. -/
theorem skipNested_tolerant (behind : BlankBehind text other) (brackets : List Bracket) :
    Alike (Left text.length) (skipNested (fuel + 1) brackets text)
      (skipNested (otherFuel + 1) brackets other) := by
  unfold skipNested
  refine behind.afterSpace fun byte rest otherRest onward shorter => ?_
  have goesOn {next otherNext : Bytes} (left : Left rest.length next otherNext) :
      Skips text.length fuel otherFuel next otherNext :=
    further next otherNext (left.mono (by omega)) (by omega)
  refine .ite (fun _ => ?_) fun _ => ?_
  · refine (expect_tolerant rfl onward).bind fun _ _ left => ?_
    exact (goesOn left).tail brackets
  refine .ite (fun _ => ?_) fun _ => ?_
  · refine (expect_tolerant rfl onward).bind fun _ _ left => ?_
    exact (goesOn left).tail brackets
  refine .ite (fun _ => ?_) fun _ => ?_
  · refine (expect_tolerant rfl onward).bind fun _ _ left => ?_
    exact (goesOn left).tail brackets
  refine .ite (fun _ => ?_) fun _ => ?_
  · refine (readNumeral_tolerant .malformed onward).bind ?_
    rintro ⟨numeral, next⟩ ⟨_, otherNext⟩ ⟨rfl, left⟩
    exact (goesOn (left.mono (Nat.sub_le _ _))).tail brackets
  refine .ite (fun _ => ?_) fun _ => ?_
  · refine (readNumeral_tolerant .malformed (onward.cons byte)).bind ?_
    rintro ⟨numeral, next⟩ ⟨_, otherNext⟩ ⟨rfl, left⟩
    exact (goesOn left).tail brackets
  refine .ite (fun _ => ?_) fun _ => ?_
  · refine (skipQuoted_tolerant onward (Nat.lt_succ_self _)
      (Nat.succ_le_succ onward.length_le)).bind fun _ _ left => ?_
    exact (goesOn left).tail brackets
  -- Behind an opening bracket there is the closing one, or what is within.
  refine .ite (fun _ => ?_) fun _ => ?_
  · refine onward.afterSpace fun next last otherLast behindNext shorterNext => ?_
    refine .ite (fun _ => ?_) fun _ => ?_
    · exact (goesOn ⟨behindNext, Nat.le_of_lt shorterNext⟩).tail brackets
    · exact (goesOn ⟨behindNext.cons next, shorterNext⟩).value (.list :: brackets)
  refine .ite (fun _ => ?_) fun _ => ?_
  · refine onward.afterSpace fun next last otherLast behindNext shorterNext => ?_
    refine .ite (fun _ => ?_) fun _ => ?_
    · exact (goesOn ⟨behindNext, Nat.le_of_lt shorterNext⟩).tail brackets
    · exact (goesOn ⟨behindNext.cons next, shorterNext⟩).name (.object :: brackets)
  · exact .error _ _

theorem skipTail_tolerant (behind : BlankBehind text other) (brackets : List Bracket) :
    Alike (Left text.length) (skipNested.skipTail (fuel + 1) brackets text)
      (skipNested.skipTail (otherFuel + 1) brackets other) := by
  unfold skipNested.skipTail
  cases brackets with
  | nil => exact .ok ⟨behind, Nat.le_refl _⟩
  | cons bracket brackets =>
      dsimp only
      refine behind.afterSpace fun byte rest otherRest onward shorter => ?_
      have goesOn : Skips text.length fuel otherFuel rest otherRest :=
        further rest otherRest ⟨onward, by omega⟩ (by omega)
      cases bracket with
      | list =>
          dsimp only
          refine .ite (fun _ => ?_) fun _ => ?_
          · exact goesOn.value (.list :: brackets)
          refine .ite (fun _ => ?_) fun _ => ?_
          · exact goesOn.tail brackets
          · exact .error _ _
      | object =>
          dsimp only
          refine .ite (fun _ => ?_) fun _ => ?_
          · exact goesOn.name (.object :: brackets)
          refine .ite (fun _ => ?_) fun _ => ?_
          · exact goesOn.tail brackets
          · exact .error _ _

theorem skipName_tolerant (behind : BlankBehind text other) (brackets : List Bracket) :
    Alike (Left text.length) (skipNested.skipName (fuel + 1) brackets text)
      (skipNested.skipName (otherFuel + 1) brackets other) := by
  unfold skipNested.skipName
  refine behind.afterSpace fun byte rest otherRest onward shorter => ?_
  refine .ite (fun _ => ?_) fun _ => ?_
  · refine (skipQuoted_tolerant onward (Nat.lt_succ_self _)
      (Nat.succ_le_succ onward.length_le)).bind fun next otherNext left => ?_
    have shorterName := left.length_le
    refine left.blankBehind.afterSpace fun mark last otherLast behindMark shorterMark => ?_
    refine .ite (fun _ => ?_) fun _ => ?_
    · exact (further last otherLast ⟨behindMark, by omega⟩ (by omega)).value brackets
    · exact .error _ _
  · exact .error _ _

end

/-- By induction on the fuel, for all places at once. -/
theorem skips {fuel otherFuel : Nat} {text other : Bytes} (behind : BlankBehind text other)
    (enough : text.length < fuel) (more : fuel ≤ otherFuel) :
    Skips text.length fuel otherFuel text other := by
  induction fuel generalizing otherFuel text other with
  | zero => exact absurd enough (Nat.not_lt_zero _)
  | succ fuel inductionHypothesis =>
      obtain ⟨otherFuel, rfl⟩ : ∃ left, otherFuel = left + 1 := ⟨otherFuel - 1, by omega⟩
      have further (rest otherRest : Bytes) (left : Left (text.length - 1) rest otherRest)
          (positive : 0 < text.length) : Skips text.length fuel otherFuel rest otherRest := by
        have shorter := left.length_le
        exact (inductionHypothesis left.blankBehind (by omega) (by omega)).mono (by omega)
      exact ⟨skipNested_tolerant further behind, skipTail_tolerant further behind,
        skipName_tolerant further behind⟩

theorem skipValue_tolerant {text other : Bytes} (behind : BlankBehind text other) :
    Alike (Left text.length) (skipValue text) (skipValue other) := by
  have longer := behind.length_le
  exact (skips behind (by omega) (by omega)).value []

/-! ## Records -/

/-- The same step, and what is left behind it. -/
inductive SameStep (bound : Nat) : Step → Step → Prop where
  | item {rest other : Bytes} (left : Left bound rest other) :
      SameStep bound (.item rest) (.item other)
  | closed {rest other : Bytes} (left : Left bound rest other) :
      SameStep bound (.closed rest) (.closed other)

theorem nextItem_tolerant (isFirst : Bool) {text other : Bytes}
    (behind : BlankBehind text other) :
    Alike (SameStep text.length) (nextItem isFirst text) (nextItem isFirst other) := by
  refine behind.afterSpace fun byte rest otherRest onward shorter => ?_
  refine .ite (fun _ => ?_) fun _ => ?_
  · exact .ok (.closed ⟨onward, Nat.le_of_lt shorter⟩)
  refine .ite (fun _ => ?_) fun _ => ?_
  · exact .ok (.item ⟨onward.cons byte, shorter⟩)
  refine .ite (fun _ => ?_) fun _ => ?_
  · refine onward.afterSpace fun next last otherLast behindNext shorterNext => ?_
    refine .ite (fun _ => ?_) fun _ => ?_
    · exact .error _ _
    · exact .ok (.item ⟨behindNext.cons next, by rw [List.length_cons]; omega⟩)
  · exact .error _ _

/-- A step to a member takes a quote at least, and so does one out of the object. -/
theorem nextMember_tolerant (isFirst : Bool) {text other : Bytes}
    (behind : BlankBehind text other) :
    Alike (fun step otherStep => 0 < text.length ∧ SameStep (text.length - 1) step otherStep)
      (nextMember isFirst text) (nextMember isFirst other) := by
  refine behind.afterSpace fun byte rest otherRest onward shorter => ?_
  have positive : 0 < text.length := by omega
  refine .ite (fun _ => ?_) fun _ => ?_
  · exact .ok ⟨positive, .closed ⟨onward, by omega⟩⟩
  refine .ite (fun _ => ?_) fun _ => ?_
  · refine .ite (fun _ => ?_) fun _ => ?_
    · exact .ok ⟨positive, .item ⟨onward, by omega⟩⟩
    · exact .error _ _
  refine .ite (fun _ => ?_) fun _ => ?_
  · refine onward.afterSpace fun next last otherLast behindNext shorterNext => ?_
    refine .ite (fun _ => ?_) fun _ => ?_
    · exact .ok ⟨positive, .item ⟨behindNext, by omega⟩⟩
    · exact .error _ _
  · exact .error _ _

theorem readPositions_tolerant {fields : List (Field σ)}
    (tolerant : ∀ field ∈ fields, ∀ draft, IsTolerant (field.read draft)) (isFirst : Bool)
    (draft : σ) : IsTolerant (readPositions fields isFirst draft) := by
  induction fields generalizing isFirst draft with
  | nil =>
      intro text other behind
      refine (readMark_tolerant closeList behind).bind fun _ _ left => ?_
      exact .ok ⟨rfl, left⟩
  | cons field fields inductionHypothesis =>
      rw [List.forall_mem_cons] at tolerant
      intro text other behind
      refine (nextItem_tolerant isFirst behind).bind ?_
      rintro _ _ (left | left)
      · refine (tolerant.1 draft _ _ left.blankBehind).bind ?_
        rintro ⟨draft, next⟩ ⟨_, otherNext⟩ ⟨rfl, leftNext⟩
        refine (inductionHypothesis tolerant.2 false draft _ _ leftNext.blankBehind).mono ?_
        rintro _ _ ⟨same, leftLast⟩
        exact ⟨same, leftLast.mono (Nat.le_trans leftNext.length_le left.length_le)⟩
      · dsimp only
        split
        · exact .ok ⟨rfl, left⟩
        · exact .error _ _

theorem readMembers_tolerant {fields : List (Field σ)}
    (tolerant : ∀ field ∈ fields, ∀ draft, IsTolerant (field.read draft))
    {fuel otherFuel : Nat} (isFirst : Bool) (draft : σ) {text other : Bytes}
    (behind : BlankBehind text other) (enough : text.length < fuel) (more : fuel ≤ otherFuel) :
    Alike (Found text.length) (readMembers fields fuel isFirst draft text)
      (readMembers fields otherFuel isFirst draft other) := by
  induction fuel generalizing otherFuel isFirst draft text other with
  | zero => exact absurd enough (Nat.not_lt_zero _)
  | succ fuel inductionHypothesis =>
      obtain ⟨otherFuel, rfl⟩ : ∃ left, otherFuel = left + 1 := ⟨otherFuel - 1, by omega⟩
      rw [readMembers, readMembers]
      refine (nextMember_tolerant isFirst behind).bind ?_
      rintro _ _ ⟨positive, left | left⟩
      · have shorter := left.length_le
        refine (readQuoted_tolerant _ _ left.blankBehind).bind ?_
        rintro ⟨name, named⟩ ⟨_, otherNamed⟩ ⟨rfl, leftName⟩
        have shorterName := leftName.length_le
        dsimp only
        split
        · refine (readMark_tolerant colon leftName.blankBehind).bind fun _ _ leftColon => ?_
          have shorterColon := leftColon.length_le
          refine (skipValue_tolerant leftColon.blankBehind).bind fun _ _ leftValue => ?_
          have shorterValue := leftValue.length_le
          exact (inductionHypothesis false draft leftValue.blankBehind (by omega)
            (by omega)).mono fun _ _ same => ⟨same.1, same.2.mono (by omega)⟩
        case h_2 field known =>
          split
          · exact .error _ _
          · refine (readMark_tolerant colon leftName.blankBehind).bind fun _ _ leftColon => ?_
            have shorterColon := leftColon.length_le
            have fieldTolerant := tolerant field (List.mem_of_find?_eq_some known) draft
            refine (fieldTolerant _ _ leftColon.blankBehind).bind ?_
            rintro ⟨draft, behindValue⟩ ⟨_, otherBehind⟩ ⟨rfl, leftValue⟩
            have shorterValue := leftValue.length_le
            exact (inductionHypothesis false draft leftValue.blankBehind (by omega)
              (by omega)).mono fun _ _ same => ⟨same.1, same.2.mono (by omega)⟩
      · exact .ok ⟨rfl, left.mono (Nat.sub_le _ _)⟩

theorem readRecord_tolerant {record : Record σ α}
    (tolerant : ∀ field ∈ record.fields, ∀ draft, IsTolerant (field.read draft)) :
    IsTolerant (readRecord record) := by
  intro text other behind
  refine behind.afterSpace fun byte rest otherRest onward shorter => ?_
  split
  · refine (readPositions_tolerant tolerant true record.draft rest otherRest onward).bind ?_
    rintro ⟨last, next⟩ ⟨_, otherNext⟩ ⟨rfl, left⟩
    dsimp only
    split
    · exact .ok ⟨rfl, left.mono (Nat.le_of_lt shorter)⟩
    · exact .error _ _
  split
  · refine (readMembers_tolerant tolerant true record.draft onward (Nat.lt_succ_self _)
      (Nat.succ_le_succ onward.length_le)).bind ?_
    rintro ⟨last, next⟩ ⟨_, otherNext⟩ ⟨rfl, left⟩
    dsimp only
    split
    · exact .ok ⟨rfl, left.mono (Nat.le_of_lt shorter)⟩
    · exact .error _ _
  · exact .error _ _

/-! ## Whole texts -/

/-- Blanks behind a text change nothing about its value, and give it none if it has none. -/
theorem IsTolerant.readWhole {read : Reader α} (tolerant : IsTolerant read) {text other : Bytes}
    (behind : BlankBehind text other) :
    (readWhole read other).toOption = (readWhole read text).toOption := by
  have alike := tolerant text other behind
  unfold Json.readWhole
  generalize read text = found at alike
  generalize read other = otherFound at alike
  cases alike with
  | error fault otherFault => rfl
  | @ok found otherFound same =>
      obtain ⟨value, rest⟩ := found
      obtain ⟨_, otherRest⟩ := otherFound
      obtain ⟨rfl, left⟩ := same
      rw [ok_bind, ok_bind]
      rcases left.blankBehind.skipSpace_cases with ⟨none, otherNone⟩ | ⟨byte, next, otherNext,
        found, otherFound, _⟩
      · simp only [none, otherNone]
      · simp only [found, otherFound]
        rfl

end PromptRelay.Json
