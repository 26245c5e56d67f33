import PromptRelay.Proofs.Yaml.Cursor
import PromptRelay.Yaml.Scalar

/-!
Contract: plain scalars of one word.

Owns:
- words of letters, which nothing in YAML takes for anything else;
- that such a word is read up to its colon if it is a key, and up to the next line if it is a
  value;
- where a gap between words ends.

Does not own: plain scalars of several words.
-/

namespace PromptRelay.Yaml

/-! ## Words -/

/-- The characters of the words that are dealt with here. -/
def isLetter (c : Char) : Bool :=
  ('a' ≤ c && c ≤ 'z') || ('A' ≤ c && c ≤ 'Z')

/-- What holds of every letter is checked letter by letter. -/
theorem of_isLetter {p : Char → Bool} {c : Char} (letter : isLetter c = true)
    (all : ∀ code : Fin 128, isLetter (Char.ofNat code) = true → p (Char.ofNat code) = true) :
    p c = true := by
  have ascii : c.toNat < 128 := by
    have upper (d : Char) (small : d.toNat < 128) (bounded : c ≤ d) : c.toNat < 128 :=
      Nat.lt_of_le_of_lt (Char.le_def.mp bounded) small
    simp only [isLetter, Bool.or_eq_true, Bool.and_eq_true, decide_eq_true_iff] at letter
    rcases letter with ⟨_, bounded⟩ | ⟨_, bounded⟩
    · exact upper 'z' (by decide) bounded
    · exact upper 'Z' (by decide) bounded
  have checked := all ⟨c.toNat, ascii⟩
  rw [Char.ofNat_toNat] at checked
  exact checked letter

theorem isGap_of_isLetter {c : Char} (letter : isLetter c = true) : isGap c = false := by
  have noGap := of_isLetter (p := fun c => !isGap c) letter (by decide)
  simpa using noGap

/-- A word that can be read as a plain scalar. -/
structure IsWord (word : List Char) : Prop where
  nonempty : word ≠ []
  letters : ∀ c ∈ word, isLetter c = true

theorem isWord_of_all {c : Char} {word : List Char} (letters : (c :: word).all isLetter = true) :
    IsWord (c :: word) :=
  ⟨List.cons_ne_nil c word, List.all_eq_true.mp letters⟩

theorem notMark_of_isWord {word rest : List Char} {cursor : Cursor} (isWord : IsWord word)
    (standing : cursor.rest = word ++ rest) :
    (cursor.isAtDocumentMark || cursor.rest.head? = some '#') = false := by
  obtain ⟨nonempty, letters⟩ := isWord
  cases word with
  | nil => exact absurd rfl nonempty
  | cons c word =>
      have letter := letters c List.mem_cons_self
      rw [Bool.or_eq_false_iff, standing, List.cons_append]
      constructor
      · rw [Bool.eq_false_iff, ne_eq, Cursor.isAtDocumentMark_iff, standing, List.cons_append]
        rintro ⟨_, _, _, isMark, same, _⟩
        rw [List.cons.injEq] at same
        rw [same.1] at letter
        rcases isMark with rfl | rfl <;> cases letter
      · rw [decide_eq_false_iff_not, List.head?_cons, Option.some.injEq]
        rintro rfl
        cases letter

/-- A word goes on to a gap, or to a colon before a gap. -/
theorem scanPlainWord_letters {word rest : List Char}
    (letters : ∀ c ∈ word, isLetter c = true)
    (ends : endsWord rest = true ∨ ∃ more, rest = ':' :: more ∧ endsWord more = true) :
    scanPlainWord false (word ++ rest) = some word := by
  induction word with
  | nil =>
      rcases ends with ends | ⟨more, rfl, ends⟩
      · cases rest with
        | nil => rfl
        | cons c rest =>
            have isGap : isGap c = true := ends
            rw [List.nil_append, scanPlainWord, if_pos isGap]
      · rw [List.nil_append, scanPlainWord]
        simp [isGap, isSpaceOrTab, isBreak, ends]
  | cons c word inductionHypothesis =>
      have letter := letters c List.mem_cons_self
      have onward := inductionHypothesis fun d member => letters d (List.mem_cons_of_mem c member)
      have noColon : c ≠ ':' := by
        rintro rfl
        cases letter
      rw [List.cons_append, scanPlainWord, isGap_of_isLetter letter]
      simp [noColon, onward]

/-! ## Gaps -/

/-- A gap ends where no further blank and no line break stands. -/
theorem scanGap_end {cursor : Cursor} (ends : cursor.rest.head?.any isGap = false)
    (tabLimit fuel : Nat) (gap : Gap) :
    scanGap tabLimit (fuel + 1) gap cursor = some (gap, cursor) := by
  have noBreak : cursor.newLine? = none := by
    apply Cursor.newLine?_of_noBreak
    cases standing : cursor.rest with
    | nil => rfl
    | cons c rest =>
        rw [standing] at ends
        exact (Bool.or_eq_false_iff.mp ends).2
  rw [scanGap, noBreak]
  dsimp only
  cases standing : cursor.rest with
  | nil => rfl
  | cons c rest =>
      rw [standing] at ends
      have noBlank : isSpaceOrTab c = false := (Bool.or_eq_false_iff.mp ends).1
      simp [noBlank]

/-- The indentation of a line is passed over. -/
theorem scanGap_indentation {rest : List Char} {cursor : Cursor} {indentation fuel : Nat}
    (tabLimit : Nat) (gap : Gap) (broken : gap.isBroken = true)
    (standing : cursor.rest = List.replicate indentation ' ' ++ rest)
    (ends : rest.head?.any isGap = false) (enough : indentation < fuel) :
    scanGap tabLimit fuel gap cursor = some (gap, cursor.skip indentation) := by
  obtain ⟨fuel, rfl⟩ : ∃ left, fuel = left + 1 := ⟨fuel - 1, by omega⟩
  induction indentation generalizing cursor fuel with
  | zero =>
      have atEnd : cursor.rest = rest := standing
      exact scanGap_end (by rw [atEnd]; exact ends) tabLimit fuel gap
  | succ indentation inductionHypothesis =>
      obtain ⟨fuel, rfl⟩ : ∃ left, fuel = left + 1 := ⟨fuel - 1, by omega⟩
      rw [List.replicate_succ, List.cons_append] at standing
      have noLine : cursor.newLine? = none := by
        apply Cursor.newLine?_of_noBreak
        rw [standing]
        rfl
      have onward : (cursor.skip 1).rest = List.replicate indentation ' ' ++ rest := by
        rw [Cursor.skip_rest, standing]
        rfl
      have others := inductionHypothesis onward fuel (by omega)
      rw [scanGap, noLine, standing]
      simp [isSpaceOrTab, broken, others, Cursor.skip_skip, Nat.add_comm 1]

/-- A line break and the indentation of the next line. -/
theorem scanGap_line {rest : List Char} {cursor : Cursor} (indentation tabLimit fuel : Nat)
    (standing : cursor.rest = '\n' :: (List.replicate indentation ' ' ++ rest))
    (ends : rest.head?.any isGap = false) (enough : indentation + 1 < fuel) :
    ∃ gap next, scanGap tabLimit fuel {} cursor = some (gap, next) ∧ gap.isBroken = true ∧
      next.rest = rest ∧ next.column = indentation := by
  obtain ⟨fuel, rfl⟩ : ∃ left, fuel = left + 1 := ⟨fuel - 1, by omega⟩
  have line := Cursor.newLine?_of_break standing (by decide) (by decide)
  have onNextLine : (Cursor.mk (List.replicate indentation ' ' ++ rest) (cursor.index + 1)
      (cursor.line + 1) 0).rest = List.replicate indentation ' ' ++ rest := rfl
  have passed := scanGap_indentation tabLimit { firstBreak := ['\n'], isBroken := true } rfl
    onNextLine ends (show indentation < fuel by omega)
  have scanned : scanGap tabLimit (fuel + 1) {} cursor =
      scanGap tabLimit fuel { firstBreak := ['\n'], isBroken := true }
        (Cursor.mk (List.replicate indentation ' ' ++ rest) (cursor.index + 1)
          (cursor.line + 1) 0) := by
    rw [scanGap, line]
    rfl
  refine ⟨_, _, scanned.trans passed, rfl, ?_, Nat.zero_add indentation⟩
  rw [Cursor.skip_rest, List.drop_left' (List.length_replicate ..)]

/-! ## Scalars -/

/-- A plain scalar that is a key ends before its colon. -/
theorem scanPlain_key {word rest : List Char} {cursor : Cursor} (isWord : IsWord word)
    (ends : endsWord rest = true) (standing : cursor.rest = word ++ ':' :: rest)
    (indent : Nat) :
    scanPlain false indent cursor =
      some { text := word, isBroken := false, next := cursor.skip word.length } := by
  have wordRead : scanPlainWord false cursor.rest = some word := by
    rw [standing]
    exact scanPlainWord_letters isWord.letters (.inr ⟨rest, rfl, ends⟩)
  have atColon : (cursor.skip word.length).rest = ':' :: rest := by
    rw [Cursor.skip_rest, standing, List.drop_left]
  have notEmpty : word.isEmpty = false := by
    rw [List.isEmpty_eq_false_iff]
    exact isWord.nonempty
  rw [scanPlain, scanPlainFrom, notMark_of_isWord isWord standing, wordRead]
  dsimp only [Option.bind_eq_bind, Option.bind_some]
  rw [notEmpty, atColon]
  rfl

/-- A plain scalar that is a value ends before the next line if that lies no further in. -/
theorem scanPlain_line {word rest : List Char} {cursor : Cursor} {indentation indent : Nat}
    (isWord : IsWord word)
    (standing : cursor.rest = word ++ '\n' :: (List.replicate indentation ' ' ++ rest))
    (ends : rest.head?.any isGap = false) (outside : indentation < indent) :
    ∃ next, scanPlain false indent cursor = some { text := word, isBroken := true, next } ∧
      next.rest = rest ∧ next.column = indentation := by
  have wordRead : scanPlainWord false cursor.rest = some word := by
    rw [standing]
    exact scanPlainWord_letters isWord.letters (.inl rfl)
  have atEnd : (cursor.skip word.length).rest =
      '\n' :: (List.replicate indentation ' ' ++ rest) := by
    rw [Cursor.skip_rest, standing, List.drop_left]
  have notEmpty : word.isEmpty = false := by
    rw [List.isEmpty_eq_false_iff]
    exact isWord.nonempty
  have room : indentation + 1 < (cursor.skip word.length).rest.length + 1 := by
    rw [atEnd, List.length_cons, List.length_append, List.length_replicate]
    omega
  obtain ⟨gap, next, gapRead, broken, left, column⟩ :=
    scanGap_line indentation indent _ atEnd ends room
  refine ⟨next, ?_, left, column⟩
  rw [scanPlain, scanPlainFrom, notMark_of_isWord isWord standing, wordRead]
  have isOutside : (!false && decide (next.column < indent)) = true := by
    simpa [column] using outside
  dsimp only [Option.bind_eq_bind, Option.bind_some]
  rw [notEmpty, if_neg Bool.false_ne_true, if_neg Bool.false_ne_true, if_pos (by rw [atEnd]; rfl),
    gapRead]
  dsimp only [Option.bind_some]
  rw [if_pos isOutside, broken]
  rfl

end PromptRelay.Yaml
