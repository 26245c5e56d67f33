import PromptRelay.Yaml.Cursor

/-!
Contract: moving over the text of a YAML document.

Owns:
- what is left after a move, over some characters or over a run of them;
- where there is a line break, and what it is read as.

Does not own: which tokens are moved over.
-/

namespace PromptRelay.Yaml

/-- A line break as it is read. -/
def lineBreak (c : Char) : Char :=
  if c = '\u2028' || c = '\u2029' then c else '\n'

namespace Cursor

variable {cursor : Cursor}

@[simp] theorem skip_rest (cursor : Cursor) (count : Nat) :
    (cursor.skip count).rest = cursor.rest.drop count := rfl

@[simp] theorem skip_index (cursor : Cursor) (count : Nat) :
    (cursor.skip count).index = cursor.index + count := rfl

@[simp] theorem skip_line (cursor : Cursor) (count : Nat) :
    (cursor.skip count).line = cursor.line := rfl

@[simp] theorem skip_column (cursor : Cursor) (count : Nat) :
    (cursor.skip count).column = cursor.column + count := rfl

@[simp] theorem skip_zero (cursor : Cursor) : cursor.skip 0 = cursor := rfl

theorem skip_skip (cursor : Cursor) (first second : Nat) :
    (cursor.skip first).skip second = cursor.skip (first + second) := by
  simp [skip, List.drop_drop, Nat.add_assoc]

/-! ## Runs -/

theorem skipWhile_of_head {isMember : Char → Bool}
    (ends : cursor.rest.head?.any isMember = false) : cursor.skipWhile isMember = cursor := by
  have nothing : cursor.rest.takeWhile isMember = [] := by
    cases standing : cursor.rest with
    | nil => rfl
    | cons c rest =>
        rw [standing] at ends
        exact List.takeWhile_cons_of_neg (by simpa using ends)
  rw [skipWhile, takeWhile, nothing]
  rfl

theorem skipWhile_of_member {isMember : Char → Bool} {c : Char} {rest : List Char}
    (standing : cursor.rest = c :: rest) (member : isMember c = true) :
    cursor.skipWhile isMember = (cursor.skip 1).skipWhile isMember := by
  have first : (cursor.skip 1).rest = rest := by
    rw [skip_rest, standing]
    rfl
  simp only [skipWhile, takeWhile, standing, first, List.takeWhile_cons_of_pos member,
    List.length_cons, skip_skip, Nat.add_comm 1]

/-! ## Line breaks -/

theorem newLine?_of_noBreak (noBreak : cursor.rest.head?.any isBreak = false) :
    cursor.newLine? = none := by
  unfold newLine?
  dsimp only
  split
  case h_1 standing =>
    rw [standing] at noBreak
    cases noBreak
  case h_2 c rest _ standing =>
    rw [standing] at noBreak
    have notBreak : isBreak c = false := noBreak
    have noSeparator : ¬ (c = '\u2028' ∨ c = '\u2029') := by
      rintro (rfl | rfl) <;> cases notBreak
    simp [noSeparator, notBreak]
  case h_3 => rfl

/-- A line break of one character. -/
theorem newLine?_of_break {c : Char} {rest : List Char} (standing : cursor.rest = c :: rest)
    (isBreak : isBreak c = true) (noReturn : c ≠ '\r') :
    cursor.newLine? = some ([lineBreak c],
      { rest, index := cursor.index + 1, line := cursor.line + 1, column := 0 }) := by
  unfold newLine? lineBreak
  rw [standing]
  split
  case h_1 same =>
    cases same
    exact absurd rfl noReturn
  case h_2 other rest' _ same =>
    cases same
    by_cases separator : c = '\u2028' ∨ c = '\u2029'
    · simp [separator]
    · simp [separator, isBreak]
  case h_3 same => cases same

/-! ## Marks between documents -/

/-- The character that a mark between documents is made of. -/
def IsMark (c : Char) : Prop := c = '-' ∨ c = '.'

theorem isAtDocumentMark_iff :
    cursor.isAtDocumentMark = true ↔
      cursor.column = 0 ∧ ∃ mark tail, IsMark mark ∧
        cursor.rest = mark :: mark :: mark :: tail ∧ endsWord tail = true := by
  rw [isAtDocumentMark, Bool.and_eq_true, decide_eq_true_iff]
  apply and_congr_right
  intro _
  constructor
  · split
    case h_1 tail standing => exact fun ends => ⟨'-', tail, .inl rfl, standing, ends⟩
    case h_2 tail standing => exact fun ends => ⟨'.', tail, .inr rfl, standing, ends⟩
    case h_3 => exact fun impossible => absurd impossible Bool.false_ne_true
  · rintro ⟨_, tail, rfl | rfl, standing, ends⟩
    · rw [standing]
      exact ends
    · rw [standing]
      exact ends

end Cursor

end PromptRelay.Yaml
