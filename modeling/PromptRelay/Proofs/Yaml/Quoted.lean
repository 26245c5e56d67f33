import PromptRelay.Json.Value
import PromptRelay.Proofs.Yaml.Plain

/-!
Contract: what the reader of double quotes makes of a text that was written as JSON.

Owns:
- the characters of such a text that are no part of a word although no escape stands for
  them: spaces and three kinds of line breaks;
- what the text is read as, in which such line breaks are folded;
- that the reader takes exactly this off the front of what was written, or fails.

Does not own: characters that a document may not hold at all.

JSON escapes what could end the text and what is a line break in ASCII, so that most
characters are followed through both languages as they are, or as an escape that means the
same in both. What is left are the line breaks that JSON does not know of.
-/

namespace PromptRelay.Yaml

open Json (escape)

/-! ## Folding -/

/-- A space, or a line break that JSON does not escape. -/
def isRawGap (c : Char) : Bool :=
  c == ' ' || c == '\x85' || c == '\u2028' || c == '\u2029'

/-- The gap with a further character. Spaces count only before the first line break. -/
def Gap.add (gap : Gap) (c : Char) : Gap :=
  if isBreak c then
    if gap.isBroken then { gap with moreBreaks := gap.moreBreaks ++ [lineBreak c] }
    else { gap with spaces := [], firstBreak := [lineBreak c], isBroken := true }
  else if gap.isBroken then gap
  else { gap with spaces := gap.spaces ++ [c] }

/-- Whether a text begins with a mark between documents. -/
def startsMark : List Char → Bool
  | '-' :: '-' :: '-' :: rest | '.' :: '.' :: '.' :: rest => rest.head?.any isRawGap
  | _ => false

/-- What a text is read as after a gap. Nothing if a line begins with a mark between
documents. -/
def folded? : (isAtLineStart : Bool) → Gap → List Char → Option (List Char)
  | _, gap, [] => some gap.value
  | isAtLineStart, gap, c :: cs =>
    if isRawGap c then folded? (isBreak c) (gap.add c) cs
    else if isAtLineStart && startsMark (c :: cs) then none
    else (folded? false {} cs).map (gap.value ++ c :: ·)

/-! ## Escapes -/

/-- A character is written as itself or by an escape. -/
theorem escape_cases (c : Char) :
    (escape c = [c] ∧ c ≠ '"' ∧ c ≠ '\\' ∧ 0x20 ≤ c.toNat) ∨
      ∃ letter more, escape c = '\\' :: letter :: more ∧ isRawGap c = false ∧
        c ≠ '-' ∧ c ≠ '.' := by
  unfold escape
  iterate 7
    split
    case isTrue same => subst same; exact .inr ⟨_, _, rfl, by decide⟩
  split
  case isTrue control =>
    refine .inr ⟨_, _, rfl, ?_, ?_, ?_⟩
    · have notSpace (d : Char) (above : 0x20 ≤ d.toNat) : c ≠ d := by
        rintro rfl
        omega
      simp [isRawGap, notSpace]
    · rintro rfl
      revert control
      decide
    · rintro rfl
      revert control
      decide
  case isFalse noQuote noBackslash _ _ _ _ _ noControl =>
    exact .inl ⟨rfl, noQuote, noBackslash, Nat.not_lt.mp noControl⟩

theorem escape_of_isRawGap {c : Char} (isGap : isRawGap c = true) : escape c = [c] := by
  obtain ⟨same, _⟩ | ⟨_, _, _, noGap, _⟩ := escape_cases c
  · exact same
  · rw [isGap] at noGap
    cases noGap

theorem length_le_length_escaped (cs : List Char) :
    cs.length ≤ (cs.flatMap escape).length := by
  induction cs with
  | nil => exact Nat.le_refl 0
  | cons c cs inductionHypothesis =>
      have written : 1 ≤ (escape c).length := by
        obtain ⟨same, _⟩ | ⟨_, _, longer, _⟩ := escape_cases c
        · rw [same]
          exact Nat.le_refl 1
        · rw [longer]
          simp
      rw [List.flatMap_cons, List.length_append, List.length_cons]
      omega

theorem isGap_of_isRawGap {c : Char} (isRaw : isRawGap c = true) : isGap c = true := by
  simp only [isRawGap, Bool.or_eq_true, beq_iff_eq] at isRaw
  rcases isRaw with ((rfl | rfl) | rfl) | rfl <;> decide

/-- What is written as itself is a gap for JSON and YAML alike. -/
theorem isGap_eq_isRawGap {c : Char} (noControl : 0x20 ≤ c.toNat) : isGap c = isRawGap c := by
  have notControl (d : Char) (below : d.toNat < 0x20) : (c == d) = false := by
    rw [beq_eq_false_iff_ne]
    rintro rfl
    omega
  simp [isGap, isSpaceOrTab, isBreak, isRawGap, notControl, Bool.or_assoc]

/-! ## Words -/

/-- Puts a character before the word that is read. -/
def withLetter (c : Char) : List Char × Bool × Cursor → List Char × Bool × Cursor
  | (word, isBroken, next) => (c :: word, isBroken, next)

theorem scanQuotedWord_plain {c : Char} {rest : List Char} {cursor : Cursor} (fuel : Nat)
    (standing : cursor.rest = c :: rest) (noGap : isGap c = false) (noQuote : c ≠ '"')
    (noBackslash : c ≠ '\\') :
    scanQuotedWord '"' (fuel + 1) cursor =
      (scanQuotedWord '"' fuel (cursor.skip 1)).map (withLetter c) := by
  simp only [scanQuotedWord, standing, noGap, noQuote, noBackslash, Bool.false_eq_true, if_false]
  cases scanQuotedWord '"' fuel (cursor.skip 1) <;> rfl

/-- An escape of one letter. -/
theorem scanQuotedWord_letter {c letter : Char} {rest : List Char} {cursor : Cursor} (fuel : Nat)
    (standing : cursor.rest = '\\' :: letter :: rest) (noBreak : isBreak letter = false)
    (noDigits : escapeWidth? letter = none) (meaning : escaped? letter = some c) :
    scanQuotedWord '"' (fuel + 1) cursor =
      (scanQuotedWord '"' fuel (cursor.skip 2)).map (withLetter c) := by
  have noLine : (cursor.skip 1).newLine? = none := by
    have noReturn : letter ≠ '\r' := by
      rintro rfl
      cases noBreak
    have noSeparator : ¬ (letter = '\u2028' ∨ letter = '\u2029') := by
      rintro (rfl | rfl) <;> cases noBreak
    simp only [Cursor.newLine?, Cursor.skip, standing, List.drop_succ_cons, List.drop_zero]
    split <;> simp_all
  simp only [scanQuotedWord, standing, noLine]
  simp [isGap, isSpaceOrTab, isBreak, noDigits, meaning]
  cases scanQuotedWord '"' fuel (cursor.skip 2) <;> rfl

/-- The escape of a control character that has no letter of its own. -/
theorem scanQuotedWord_coded {c : Char} {rest : List Char} {cursor : Cursor} (fuel : Nat)
    (control : c.toNat < 0x20)
    (standing : cursor.rest = '\\' :: 'u' :: '0' :: '0' :: Json.hexDigit (c.toNat / 16) ::
      Json.hexDigit (c.toNat % 16) :: rest) :
    scanQuotedWord '"' (fuel + 1) cursor =
      (scanQuotedWord '"' fuel (cursor.skip 6)).map (withLetter c) := by
  have meaning : coded? ['0', '0', Json.hexDigit (c.toNat / 16), Json.hexDigit (c.toNat % 16)] =
      some c := by
    have all : ∀ code : Fin 32,
        coded? ['0', '0', Json.hexDigit (code.val / 16), Json.hexDigit (code.val % 16)] =
          some (Char.ofNat code.val) := by
      decide
    rw [all ⟨c.toNat, control⟩, Char.ofNat_toNat]
  have noLine : (cursor.skip 1).newLine? = none := by
    simp [Cursor.newLine?, Cursor.skip, standing, isBreak]
  simp only [scanQuotedWord, standing, noLine]
  simp [isGap, isSpaceOrTab, isBreak, escapeWidth?, meaning]
  cases scanQuotedWord '"' fuel (cursor.skip 6) <;> rfl

/-- What is written for a character is read as the character. -/
theorem scanQuotedWord_escape {c : Char} {rest : List Char} {cursor : Cursor} (fuel : Nat)
    (noGap : isRawGap c = false) (standing : cursor.rest = escape c ++ rest) :
    scanQuotedWord '"' (fuel + 1) cursor =
      (scanQuotedWord '"' fuel (cursor.skip (escape c).length)).map (withLetter c) := by
  unfold escape at standing ⊢
  -- Seven characters have an escape of one letter.
  iterate 7
    split at standing
    case isTrue same =>
      subst same
      exact scanQuotedWord_letter fuel standing (by decide) (by decide) (by decide)
    rename_i different
    rw [if_neg different]
  by_cases control : c.toNat < 0x20
  · rw [if_pos control] at standing ⊢
    exact scanQuotedWord_coded fuel control standing
  · rw [if_neg control] at standing ⊢
    have noGap' : isGap c = false := by
      rw [isGap_eq_isRawGap (Nat.not_lt.mp control), noGap]
    exact scanQuotedWord_plain fuel standing noGap' (by assumption) (by assumption)

/-- A word ends at a gap or at the closing quote. -/
theorem scanQuotedWord_word {word rest : List Char} {cursor : Cursor} {fuel : Nat}
    (noGaps : ∀ c ∈ word, isRawGap c = false)
    (ends : ∃ c, rest.head? = some c ∧ (c = '"' ∨ isGap c = true))
    (standing : cursor.rest = word.flatMap escape ++ rest) (enough : word.length < fuel) :
    scanQuotedWord '"' fuel cursor =
      some (word, false, cursor.skip (word.flatMap escape).length) := by
  obtain ⟨fuel, rfl⟩ : ∃ left, fuel = left + 1 := ⟨fuel - 1, by omega⟩
  induction word generalizing cursor fuel with
  | nil =>
      obtain ⟨c, isHead, isEnd⟩ := ends
      cases rest with
      | nil => cases isHead
      | cons d rest =>
          cases isHead
          have atEnd : cursor.rest = c :: rest := standing
          simp only [scanQuotedWord, atEnd]
          rcases isEnd with rfl | isGap
          · rfl
          · rw [if_pos isGap]
            rfl
  | cons c word inductionHypothesis =>
      rw [List.length_cons] at enough
      obtain ⟨fuel, rfl⟩ : ∃ left, fuel = left + 1 := ⟨fuel - 1, by omega⟩
      rw [List.flatMap_cons, List.append_assoc] at standing
      have onward : (cursor.skip (escape c).length).rest = word.flatMap escape ++ rest := by
        rw [Cursor.skip_rest, standing, List.drop_left]
      rw [scanQuotedWord_escape (fuel + 1) (noGaps c List.mem_cons_self) standing,
        inductionHypothesis (fun d member => noGaps d (List.mem_cons_of_mem c member)) onward
          fuel (by omega),
        Cursor.skip_skip, List.flatMap_cons, List.length_append]
      rfl

/-! ## Gaps -/

theorem scanGap_raw {gaps rest : List Char} {cursor : Cursor} {fuel : Nat} (gap : Gap)
    (raw : ∀ c ∈ gaps, isRawGap c = true) (ends : rest.head?.any isGap = false)
    (standing : cursor.rest = gaps ++ rest) (enough : gaps.length < fuel) :
    ∃ next, scanGap 0 fuel gap cursor = some (gaps.foldl Gap.add gap, next) ∧
      next.rest = rest ∧
      (next.column == 0) = gaps.foldl (fun _ c => isBreak c) (cursor.column == 0) := by
  obtain ⟨fuel, rfl⟩ : ∃ left, fuel = left + 1 := ⟨fuel - 1, by omega⟩
  induction gaps generalizing gap cursor fuel with
  | nil =>
      have atEnd : cursor.rest = rest := standing
      refine ⟨cursor, ?_, atEnd, rfl⟩
      exact scanGap_end (by rw [atEnd]; exact ends) 0 fuel gap
  | cons c gaps inductionHypothesis =>
      rw [List.length_cons] at enough
      obtain ⟨fuel, rfl⟩ : ∃ left, fuel = left + 1 := ⟨fuel - 1, by omega⟩
      have isRaw := raw c List.mem_cons_self
      have others : ∀ d ∈ gaps, isRawGap d = true :=
        fun d member => raw d (List.mem_cons_of_mem c member)
      by_cases broken : isBreak c = true
      · have noReturn : c ≠ '\r' := by
          rintro rfl
          cases isRaw
        have line := Cursor.newLine?_of_break standing broken noReturn
        have onNextLine : (Cursor.mk (gaps ++ rest) (cursor.index + 1) (cursor.line + 1) 0).rest =
            gaps ++ rest := rfl
        obtain ⟨next, scanned, left, column⟩ :=
          inductionHypothesis (gap.add c) others onNextLine fuel (by omega)
        refine ⟨next, ?_, left, ?_⟩
        · rw [scanGap, line]
          dsimp only
          rw [List.foldl_cons, ← scanned, Gap.add, if_pos broken]
          rfl
        · rw [column, List.foldl_cons, broken]
          rfl
      · have isSpace : c = ' ' := by
          simp only [isRawGap, Bool.or_eq_true, beq_iff_eq] at isRaw
          rcases isRaw with ((rfl | rfl) | rfl) | rfl
          · rfl
          all_goals exact absurd (by decide) broken
        subst isSpace
        have noLine : cursor.newLine? = none := by
          apply Cursor.newLine?_of_noBreak
          rw [standing]
          rfl
        have onward : (cursor.skip 1).rest = gaps ++ rest := by
          rw [Cursor.skip_rest, standing]
          rfl
        obtain ⟨next, scanned, left, column⟩ :=
          inductionHypothesis (gap.add ' ') others onward fuel (by omega)
        refine ⟨next, ?_, left, column⟩
        rw [List.foldl_cons, ← scanned, scanGap, noLine, standing]
        cases isBroken : gap.isBroken <;> simp [isSpaceOrTab, isBroken, Gap.add, isBreak]

/-! ## Marks between documents -/

theorem startsMark_iff {cs : List Char} :
    startsMark cs = true ↔ ∃ mark rest, Cursor.IsMark mark ∧
      cs = mark :: mark :: mark :: rest ∧ rest.head?.any isRawGap = true := by
  constructor
  · unfold startsMark
    split
    case h_1 rest => exact fun ends => ⟨'-', rest, .inl rfl, rfl, ends⟩
    case h_2 rest => exact fun ends => ⟨'.', rest, .inr rfl, rfl, ends⟩
    case h_3 => exact fun impossible => absurd impossible Bool.false_ne_true
  · rintro ⟨_, rest, rfl | rfl, rfl, ends⟩ <;> exact ends

/-- A mark is written as itself, and nothing else is written with it. -/
theorem escaped_eq_mark_iff {cs rest tail : List Char} {mark : Char}
    (isMark : Cursor.IsMark mark) :
    cs.flatMap escape ++ '"' :: rest = mark :: tail ↔
      ∃ more, cs = mark :: more ∧ tail = more.flatMap escape ++ '"' :: rest := by
  have noQuote : mark ≠ '"' := by
    rintro rfl
    rcases isMark with impossible | impossible <;> cases impossible
  have noBackslash : mark ≠ '\\' := by
    rintro rfl
    rcases isMark with impossible | impossible <;> cases impossible
  cases cs with
  | nil => simp [noQuote.symm]
  | cons c cs =>
      obtain ⟨same, _⟩ | ⟨letter, more, written, _, noDash, noPoint⟩ := escape_cases c
      · rw [List.flatMap_cons, same]
        constructor
        · intro standing
          cases standing
          exact ⟨cs, rfl, rfl⟩
        · rintro ⟨_, standing, rfl⟩
          cases standing
          rfl
      · rw [List.flatMap_cons, written]
        have different : c ≠ mark := by
          rintro rfl
          exact isMark.elim noDash noPoint
        simp [noBackslash.symm, different]

theorem endsWord_escaped (cs rest : List Char) :
    endsWord (cs.flatMap escape ++ '"' :: rest) = cs.head?.any isRawGap := by
  cases cs with
  | nil => rfl
  | cons c cs =>
      obtain ⟨same, _, _, noControl⟩ | ⟨letter, more, written, noGap, _⟩ := escape_cases c
      · rw [List.flatMap_cons, same]
        exact isGap_eq_isRawGap noControl
      · rw [List.flatMap_cons, written]
        exact noGap.symm

/-- There is a mark after escaping if and only if there was one before. -/
theorem isAtDocumentMark_escaped {cs rest : List Char} {cursor : Cursor}
    (standing : cursor.rest = cs.flatMap escape ++ '"' :: rest) :
    cursor.isAtDocumentMark = (cursor.column == 0 && startsMark cs) := by
  rw [Bool.eq_iff_iff, Cursor.isAtDocumentMark_iff, Bool.and_eq_true, beq_iff_eq, startsMark_iff,
    standing]
  apply and_congr_right
  intro _
  constructor
  · rintro ⟨mark, tail, isMark, written, ends⟩
    obtain ⟨_, rfl, second⟩ := (escaped_eq_mark_iff isMark).mp written
    obtain ⟨_, rfl, third⟩ := (escaped_eq_mark_iff isMark).mp second.symm
    obtain ⟨more, rfl, last⟩ := (escaped_eq_mark_iff isMark).mp third.symm
    rw [last, endsWord_escaped] at ends
    exact ⟨mark, more, isMark, rfl, ends⟩
  · rintro ⟨mark, more, isMark, rfl, ends⟩
    have written : escape mark = [mark] := by
      rcases isMark with rfl | rfl <;> rfl
    refine ⟨mark, more.flatMap escape ++ '"' :: rest, isMark, ?_, ?_⟩
    · simp [written]
    · rw [endsWord_escaped]
      exact ends

/-! ## Folding in steps -/

/-- A gap is gathered character by character. -/
theorem folded?_gaps {gaps : List Char} (cs : List Char) (isAtLineStart : Bool) (gap : Gap)
    (raw : ∀ c ∈ gaps, isRawGap c = true) :
    folded? isAtLineStart gap (gaps ++ cs) =
      folded? (gaps.foldl (fun _ c => isBreak c) isAtLineStart) (gaps.foldl Gap.add gap) cs := by
  induction gaps generalizing isAtLineStart gap with
  | nil => rfl
  | cons c gaps inductionHypothesis =>
      have isRaw := raw c List.mem_cons_self
      rw [List.cons_append, folded?, if_pos isRaw,
        inductionHypothesis _ _ fun d member => raw d (List.mem_cons_of_mem c member)]
      rfl

/-- A gap goes before what follows it. -/
theorem folded?_gap {cs : List Char} (isAtLineStart : Bool) (gap : Gap)
    (ends : cs.head?.any isRawGap = false) :
    folded? isAtLineStart gap cs = (folded? isAtLineStart {} cs).map (gap.value ++ ·) := by
  cases cs with
  | nil => simp [folded?, Gap.value]
  | cons c cs =>
      have noGap : isRawGap c = false := ends
      rw [folded?, folded?, noGap]
      by_cases mark : (isAtLineStart && startsMark (c :: cs)) = true
      · simp [mark]
      · simp [mark, Gap.value, Function.comp_def]

/-- A word stays as it is. -/
theorem folded?_word {word : List Char} (cs : List Char) (isAtLineStart : Bool)
    (noGaps : ∀ c ∈ word, isRawGap c = false) (ends : cs.head?.all isRawGap = true)
    (noMark : (isAtLineStart && startsMark (word ++ cs)) = false) :
    folded? isAtLineStart {} (word ++ cs) = (folded? false {} cs).map (word ++ ·) := by
  induction word generalizing isAtLineStart with
  | nil =>
      cases cs with
      | nil => rfl
      | cons c cs =>
          have isGap : isRawGap c = true := ends
          simp [folded?, isGap]
  | cons c word inductionHypothesis =>
      have noGap := noGaps c List.mem_cons_self
      rw [List.cons_append] at noMark ⊢
      rw [folded?, noGap, noMark,
        inductionHypothesis false (fun d member => noGaps d (List.mem_cons_of_mem c member)) rfl]
      simp [Gap.value, Function.comp_def]

/-- A text in which JSON left no line break stays as it is. -/
theorem folded?_of_noBreaks {cs : List Char} (gap : Gap) (unbroken : gap.isBroken = false)
    (noBreaks : ∀ c ∈ cs, isRawGap c = true → c = ' ') :
    folded? false gap cs = some (gap.spaces ++ cs) := by
  have value : gap.value = gap.spaces := by
    simp [Gap.value, unbroken]
  induction cs generalizing gap with
  | nil => rw [folded?, value, List.append_nil]
  | cons c cs inductionHypothesis =>
      have others : ∀ d ∈ cs, isRawGap d = true → d = ' ' :=
        fun d member => noBreaks d (List.mem_cons_of_mem c member)
      rw [folded?, Bool.false_and]
      cases isGap : isRawGap c with
      | true =>
          obtain rfl := noBreaks c List.mem_cons_self isGap
          have added : gap.add ' ' = { gap with spaces := gap.spaces ++ [' '] } := by
            simp [Gap.add, unbroken, isBreak]
          have noBreak : isBreak ' ' = false := by decide
          rw [if_pos rfl, noBreak, added,
            inductionHypothesis { gap with spaces := gap.spaces ++ [' '] } unbroken others
              (by simp [Gap.value, unbroken])]
          simp
      | false =>
          rw [if_neg Bool.false_ne_true, if_neg Bool.false_ne_true,
            inductionHypothesis {} rfl others rfl, value]
          rfl

/-! ## Scalars -/

/-- A text as its first word, the gap after it and what follows the gap. -/
theorem exists_word_gap (cs : List Char) :
    ∃ word gaps others, cs = word ++ (gaps ++ others) ∧ (∀ c ∈ word, isRawGap c = false) ∧
      (∀ c ∈ gaps, isRawGap c = true) ∧ others.head?.any isRawGap = false ∧
      (gaps = [] → others = []) := by
  induction cs with
  | nil => exact ⟨[], [], [], rfl, by simp, by simp, rfl, fun _ => rfl⟩
  | cons c cs inductionHypothesis =>
      obtain ⟨word, gaps, others, rfl, noGaps, raw, ends, last⟩ := inductionHypothesis
      cases isGap : isRawGap c with
      | false =>
          refine ⟨c :: word, gaps, others, rfl, ?_, raw, ends, last⟩
          exact List.forall_mem_cons.mpr ⟨isGap, noGaps⟩
      | true =>
          cases word with
          | nil =>
              refine ⟨[], c :: gaps, others, rfl, by simp, ?_, ends, by simp⟩
              exact List.forall_mem_cons.mpr ⟨isGap, raw⟩
          | cons d word =>
              refine ⟨[], [c], d :: word ++ (gaps ++ others), rfl, by simp, ?_, ?_, by simp⟩
              · simpa using isGap
              · exact noGaps d List.mem_cons_self

theorem flatMap_escape_of_gaps {gaps : List Char} (raw : ∀ c ∈ gaps, isRawGap c = true) :
    gaps.flatMap escape = gaps := by
  induction gaps with
  | nil => rfl
  | cons c gaps inductionHypothesis =>
      rw [List.flatMap_cons, escape_of_isRawGap (raw c List.mem_cons_self),
        inductionHypothesis fun d member => raw d (List.mem_cons_of_mem c member)]
      rfl

theorem folded?_of_mark {cs : List Char} {isAtLineStart : Bool} (gap : Gap)
    (mark : (isAtLineStart && startsMark cs) = true) : folded? isAtLineStart gap cs = none := by
  obtain ⟨_, rest, isMark, rfl, _⟩ := startsMark_iff.mp (Bool.and_eq_true_iff.mp mark).2
  have noGap (c : Char) (isMark : Cursor.IsMark c) : isRawGap c = false := by
    rcases isMark with rfl | rfl <;> rfl
  rw [folded?, noGap _ isMark, mark]
  rfl

/-- What has been written of a text up to the closing quote is read as the folded text, or
not at all. -/
theorem scanQuotedFrom_escaped {cs rest : List Char} {cursor : Cursor} {fuel : Nat}
    (standing : cursor.rest = cs.flatMap escape ++ '"' :: rest) (enough : cs.length < fuel) :
    (scanQuotedFrom '"' fuel cursor).map (fun found => (found.1, found.2.rest)) =
      (folded? (cursor.column == 0) {} cs).map (·, rest) := by
  induction fuel generalizing cs cursor with
  | zero => omega
  | succ fuel inductionHypothesis =>
      have notEmpty : cursor.rest.isEmpty = false := by
        rw [standing]
        cases cs.flatMap escape <;> rfl
      rw [scanQuotedFrom, notEmpty, isAtDocumentMark_escaped standing, Bool.or_false]
      by_cases mark : (cursor.column == 0 && startsMark cs) = true
      · rw [if_pos mark, folded?_of_mark {} mark]
        rfl
      · rw [if_neg mark]
        rw [Bool.not_eq_true] at mark
        obtain ⟨word, gaps, others, rfl, noGaps, raw, ends, last⟩ := exists_word_gap cs
        -- The text after the word: the gap as it is, and what is written of the others.
        have written : cursor.rest =
            word.flatMap escape ++ (gaps ++ (others.flatMap escape ++ '"' :: rest)) := by
          rw [standing, List.flatMap_append, List.flatMap_append, flatMap_escape_of_gaps raw]
          simp only [List.append_assoc]
        have afterWord : (cursor.skip (word.flatMap escape).length).rest =
            gaps ++ (others.flatMap escape ++ '"' :: rest) := by
          rw [Cursor.skip_rest, written, List.drop_left]
        have wordRead : scanQuotedWord '"' (cursor.rest.length + 1) cursor =
            some (word, false, cursor.skip (word.flatMap escape).length) := by
          apply scanQuotedWord_word noGaps _ written
          · have longer := length_le_length_escaped word
            rw [written, List.length_append]
            omega
          · cases gaps with
            | nil =>
                obtain rfl := last rfl
                exact ⟨'"', rfl, .inl rfl⟩
            | cons c gaps =>
                exact ⟨c, rfl, .inr (isGap_of_isRawGap (raw c List.mem_cons_self))⟩
        rw [wordRead, Option.bind_eq_bind, Option.bind_some]
        dsimp only
        cases gaps with
        | nil =>
            obtain rfl := last rfl
            have closed : (cursor.skip (word.flatMap escape).length).rest.head? = some '"' := by
              rw [afterWord]
              rfl
            have left : ((cursor.skip (word.flatMap escape).length).skip 1).rest = rest := by
              rw [Cursor.skip_rest, afterWord]
              rfl
            rw [if_pos closed, List.nil_append, folded?_word [] _ noGaps rfl mark, Option.map_some,
              left]
            simp [folded?, Gap.value]
        | cons c gaps =>
            have isRaw := raw c List.mem_cons_self
            have noQuote : (cursor.skip (word.flatMap escape).length).rest.head? ≠ some '"' := by
              rw [afterWord]
              rintro same
              cases same
              cases isRaw
            have endsGap : (others.flatMap escape ++ '"' :: rest).head?.any isGap = false := by
              have word := endsWord_escaped others rest
              rw [ends] at word
              cases standing : others.flatMap escape ++ '"' :: rest with
              | nil => rfl
              | cons d more => rwa [standing] at word
            have roomForGap : (c :: gaps).length <
                (cursor.skip (word.flatMap escape).length).rest.length + 1 := by
              rw [afterWord, List.length_append]
              omega
            have roomForOthers : others.length < fuel := by
              simp only [List.length_append, List.length_cons] at enough
              omega
            obtain ⟨next, gapRead, left, column⟩ :=
              scanGap_raw {} raw endsGap afterWord roomForGap
            have othersRead := inductionHypothesis left roomForOthers
            rw [if_neg noQuote, gapRead]
            -- Both sides come down to what the others are folded to.
            have foldedOthers : folded? (cursor.column == 0) {} (word ++ (c :: gaps ++ others)) =
                (folded? (next.column == 0) {} others).map fun text =>
                  word ++ (((c :: gaps).foldl Gap.add {}).value ++ text) := by
              rw [folded?_word (c :: gaps ++ others) _ noGaps isRaw mark,
                folded?_gaps others false {} raw, folded?_gap _ _ ends, column, Option.map_map]
              rfl
            calc
              _ = ((scanQuotedFrom '"' fuel next).map fun found => (found.1, found.2.rest)).map
                    fun found => (word ++ ((c :: gaps).foldl Gap.add {}).value ++ found.1,
                      found.2) := by
                cases scanned : scanQuotedFrom '"' fuel next <;> simp [scanned]
              _ = _ := by
                rw [othersRead, foldedOthers, Option.map_map, Option.map_map]
                simp only [Function.comp_def, List.append_assoc]

/-- A text that was written in quotes is read as the folded text, or not at all. -/
theorem scanQuoted_quoted {text : String} {rest : List Char} {cursor : Cursor}
    (standing : cursor.rest = Json.quoted text ++ rest) :
    (scanQuoted '"' cursor).map (fun found => (found.1, found.2.rest)) =
      (folded? false {} text.toList).map (·, rest) := by
  have inside : (cursor.skip 1).rest = text.toList.flatMap escape ++ '"' :: rest := by
    rw [Cursor.skip_rest, standing, Json.quoted]
    simp
  have room : text.toList.length < cursor.rest.length + 1 := by
    have longer := length_le_length_escaped text.toList
    rw [standing, Json.quoted]
    simp only [List.length_append, List.length_cons]
    omega
  have notAtStart : ((cursor.skip 1).column == 0) = false := by
    rw [Cursor.skip_column]
    rfl
  rw [scanQuoted, scanQuotedFrom_escaped inside room, notAtStart]

end PromptRelay.Yaml
