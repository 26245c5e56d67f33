import PromptRelay.Proofs.Yaml.Cursor
import PromptRelay.Yaml.Lexer

/-!
Contract: how the lexer comes to the next token in block collections.

Owns:
- what the state of the lexer is between two tokens;
- that layout of spaces and line breaks is passed over;
- which blocks end at a column, and the tokens that say so.

Does not own: the tokens themselves, and flow collections.
-/

namespace PromptRelay.Yaml

/-! ## Layout -/

/-- The column after layout of spaces and line breaks. -/
def columnAfter (layout : List Char) (column : Nat) : Nat :=
  layout.foldl (fun column c => if c = '\n' then 0 else column + 1) column

/-- A character that layout between pieces consists of. -/
def isLayout (c : Char) : Bool :=
  c == ' ' || c == '\n'

/-- A character with which layout ends. -/
def isInk (c : Char) : Bool :=
  !isGap c && c != '#' && c != '\ufeff'

namespace Lexer

/-- There is nothing to pass over. -/
theorem skipGaps_ink {lexer : Lexer} (ends : lexer.cursor.rest.head?.all isInk = true)
    (fuel : Nat) : lexer.skipGaps (fuel + 1) = lexer := by
  have isNot (p : Char → Bool) (apart : ∀ c, isInk c = true → p c = false) :
      lexer.cursor.rest.head?.any p = false := by
    cases standing : lexer.cursor.rest with
    | nil => rfl
    | cons c rest =>
        rw [standing] at ends
        exact apart c ends
  have isSome {c : Char} (standing : lexer.cursor.rest.head? = some c) : isInk c = true := by
    rw [standing] at ends
    exact ends
  have noMark : lexer.cursor.rest.head? ≠ some '\ufeff' := by
    intro same
    cases isSome same
  have noComment : lexer.cursor.rest.head? ≠ some '#' := by
    intro same
    cases isSome same
  have noGap (c : Char) (ink : isInk c = true) : isGap c = false := by
    simp only [isInk, Bool.and_eq_true, Bool.not_eq_true'] at ink
    exact ink.1.1
  have noLine := Cursor.newLine?_of_noBreak (isNot isBreak fun c ink =>
    (Bool.or_eq_false_iff.mp (noGap c ink)).2)
  have noBlank := Cursor.skipWhile_of_head (isNot
    (fun c => c == ' ' || ((lexer.isInFlow || !lexer.mayStartKey) && c == '\t')) (by
      intro c ink
      have blank := (Bool.or_eq_false_iff.mp (noGap c ink)).1
      rw [isSpaceOrTab, Bool.or_eq_false_iff] at blank
      simp [blank]))
  unfold skipGaps
  simp [noMark, noBlank, noComment, noLine]

theorem skipGaps_space {lexer : Lexer} {rest : List Char}
    (standing : lexer.cursor.rest = ' ' :: rest) (fuel : Nat) :
    lexer.skipGaps (fuel + 1) = (lexer.skip 1).skipGaps (fuel + 1) := by
  have noMark : lexer.cursor.rest.head? ≠ some '\ufeff' := by
    simp [standing]
  have onward : lexer.cursor.skipWhile (fun c => c == ' ' ||
      ((lexer.isInFlow || !lexer.mayStartKey) && c == '\t')) =
      (lexer.cursor.skip 1).skipWhile fun c => c == ' ' ||
        ((lexer.isInFlow || !lexer.mayStartKey) && c == '\t') :=
    Cursor.skipWhile_of_member standing rfl
  unfold skipGaps
  simp [noMark, skip, onward]
  rfl

theorem skipGaps_newLine {lexer : Lexer} {rest : List Char} (inBlock : lexer.isInFlow = false)
    (standing : lexer.cursor.rest = '\n' :: rest) (fuel : Nat) :
    lexer.skipGaps (fuel + 1) =
      { lexer with
        cursor := { rest, index := lexer.cursor.index + 1, line := lexer.cursor.line + 1
                    column := 0 }
        mayStartKey := true }.skipGaps fuel := by
  have noMark : lexer.cursor.rest.head? ≠ some '\ufeff' := by
    simp [standing]
  have noComment : lexer.cursor.rest.head? ≠ some '#' := by
    simp [standing]
  have noBlank : lexer.cursor.skipWhile (fun c => c == ' ' ||
      ((lexer.isInFlow || !lexer.mayStartKey) && c == '\t')) = lexer.cursor := by
    apply Cursor.skipWhile_of_head
    rw [standing]
    simp
  have line := Cursor.newLine?_of_break standing (by decide) (by decide)
  have mayStart : (lexer.mayStartKey || !lexer.isInFlow) = true := by
    rw [inBlock, Bool.not_false, Bool.or_true]
  rw [skipGaps]
  simp [noMark, noBlank, noComment, line, mayStart]

/-! ## States -/

/-- The tokens that have been read, in the order in which they stand. -/
def tokens (lexer : Lexer) : List Token :=
  lexer.produced.reverse.flatMap fun placed => placed.before ++ [placed.token]

@[simp] theorem tokens_put (token : Token) (lexer : Lexer) :
    (lexer.put token).tokens = lexer.tokens ++ [token] := by
  simp [tokens, put]

/-- The lexer stands before a text, at a column and inside of blocks, the innermost first. It
has read tokens and is not in the middle of a key. -/
structure Stands (lexer : Lexer) (rest : List Char) (column : Nat) (blocks : List Int)
    (mayStartKey : Bool) (tokens : List Token) : Prop where
  rest : lexer.cursor.rest = rest
  column : lexer.cursor.column = column
  blocks : lexer.indent :: lexer.outer = blocks
  mayStartKey : lexer.mayStartKey = mayStartKey
  keys : lexer.keys = [none]
  tokens : lexer.tokens = tokens

namespace Stands

variable {lexer : Lexer} {rest layout : List Char} {column : Nat} {blocks : List Int}
  {mayStartKey : Bool} {tokens : List Token}

theorem inBlock (stands : lexer.Stands rest column blocks mayStartKey tokens) :
    lexer.isInFlow = false := by
  rw [isInFlow, stands.keys]
  rfl

/-- Layout is passed over. A key may begin in a new line. -/
theorem skipGaps (stands : lexer.Stands (layout ++ rest) column blocks mayStartKey tokens)
    (blank : layout.all isLayout = true) (ends : rest.head?.all isInk = true)
    {fuel : Nat} (enough : layout.length < fuel) :
    (lexer.skipGaps fuel).Stands rest (columnAfter layout column) blocks
      (mayStartKey || layout.contains '\n') tokens := by
  obtain ⟨fuel, rfl⟩ : ∃ left, fuel = left + 1 := ⟨fuel - 1, by omega⟩
  induction layout generalizing lexer column mayStartKey fuel with
  | nil =>
      have atEnd : lexer.cursor.rest.head?.all isInk = true := by
        rw [stands.rest]
        exact ends
      rw [skipGaps_ink atEnd, List.contains_nil, Bool.or_false]
      exact stands
  | cons c layout inductionHypothesis =>
      rw [List.length_cons] at enough
      obtain ⟨fuel, rfl⟩ : ∃ left, fuel = left + 1 := ⟨fuel - 1, by omega⟩
      rw [List.all_cons, Bool.and_eq_true, isLayout, Bool.or_eq_true, beq_iff_eq, beq_iff_eq]
        at blank
      obtain ⟨rfl | rfl, others⟩ := blank
      · have onward : (lexer.skip 1).Stands (layout ++ rest) (column + 1) blocks mayStartKey
            tokens := by
          refine ⟨?_, ?_, stands.blocks, stands.mayStartKey, stands.keys, stands.tokens⟩
          · change lexer.cursor.rest.drop 1 = layout ++ rest
            rw [stands.rest]
            rfl
          · change lexer.cursor.column + 1 = column + 1
            rw [stands.column]
        have passed := inductionHypothesis onward others (fuel + 1) (by omega)
        rw [← skipGaps_space stands.rest] at passed
        rw [List.contains_cons]
        exact passed
      · have nextLine : { lexer with
            cursor := { rest := layout ++ rest, index := lexer.cursor.index + 1
                        line := lexer.cursor.line + 1, column := 0 }
            mayStartKey := true }.Stands (layout ++ rest) 0 blocks true tokens :=
          ⟨rfl, rfl, stands.blocks, rfl, stands.keys, stands.tokens⟩
        have passed := inductionHypothesis nextLine others fuel (by omega)
        have sameColumn : columnAfter ('\n' :: layout) column = columnAfter layout 0 := rfl
        rw [skipGaps_newLine stands.inBlock stands.rest, List.contains_cons, sameColumn]
        simpa using passed

end Stands

/-! ## Blocks -/

/-- The blocks that are left at a column, and the tokens that end the others. -/
def leave (column : Int) : (blocks : List Int) → List Int × List Token
  | indent :: next :: outer =>
    if column < indent then
      ((leave column (next :: outer)).1, .blockEnd :: (leave column (next :: outer)).2)
    else
      (indent :: next :: outer, [])
  | blocks => (blocks, [])

theorem leave_of_inside {indent column : Int} (outer : List Int) (inside : indent ≤ column) :
    leave column (indent :: outer) = (indent :: outer, []) := by
  cases outer with
  | nil => rfl
  | cons next outer => rw [leave, if_neg (Int.not_lt.mpr inside)]

namespace Stands

variable {lexer : Lexer} {rest layout : List Char} {column : Nat} {blocks : List Int}
  {mayStartKey : Bool} {tokens : List Token}

theorem closeBlocks (stands : lexer.Stands rest column blocks mayStartKey tokens) (left : Int) :
    (lexer.closeBlocks left).Stands rest column (leave left blocks).1 mayStartKey
      (tokens ++ (leave left blocks).2) := by
  have closed (outer : List Int) : ∀ {lexer : Lexer} {tokens : List Token},
      lexer.Stands rest column (lexer.indent :: outer) mayStartKey tokens →
        (closeBlocks.close left outer lexer).Stands rest column
          (leave left (lexer.indent :: outer)).1 mayStartKey
          (tokens ++ (leave left (lexer.indent :: outer)).2) := by
    induction outer with
    | nil =>
        intro lexer tokens stands
        rw [closeBlocks.close, leave, List.append_nil]
        · exact stands
        · rintro _ _ _ ⟨⟩
    | cons indent outer inductionHypothesis =>
        intro lexer tokens stands
        rw [closeBlocks.close, leave]
        by_cases outside : left < lexer.indent
        · rw [if_pos outside, if_pos outside]
          have out : ({ lexer with indent, outer }.put .blockEnd).Stands rest column
              (indent :: outer) mayStartKey (tokens ++ [Token.blockEnd]) := by
            refine ⟨stands.rest, stands.column, rfl, stands.mayStartKey, stands.keys, ?_⟩
            rw [tokens_put]
            exact congrArg (· ++ [Token.blockEnd]) stands.tokens
          have onward := inductionHypothesis out
          rw [List.append_assoc] at onward
          exact onward
        · rw [if_neg outside, if_neg outside, List.append_nil]
          exact stands
  rw [Lexer.closeBlocks, stands.inBlock, if_neg Bool.false_ne_true]
  have both := stands.blocks
  subst both
  exact closed lexer.outer stands

theorem dropStaleKeys (stands : lexer.Stands rest column blocks mayStartKey tokens) :
    lexer.dropStaleKeys = some lexer := by
  rw [Lexer.dropStaleKeys, stands.keys]
  have same : { lexer with keys := [none] } = lexer := by
    rw [← stands.keys]
  simp [same]

/-- To read on is to pass over layout, to leave the blocks that end there, and to read the
token that begins there. -/
theorem run_token {c : Char}
    (stands : lexer.Stands (layout ++ c :: rest) column blocks mayStartKey tokens)
    (blank : layout.all isLayout = true) (ink : isInk c = true) :
    ∃ next : Lexer,
      next.Stands (c :: rest) (columnAfter layout column)
        (leave (columnAfter layout column) blocks).1 (mayStartKey || layout.contains '\n')
        (tokens ++ (leave (columnAfter layout column) blocks).2) ∧
      ∀ fuel, run (fuel + 1) lexer = (next.token c rest).bind (run fuel) := by
  have room : layout.length < lexer.cursor.rest.length + 1 := by
    rw [stands.rest, List.length_append]
    omega
  have passed := stands.skipGaps blank ink room
  have closed := passed.closeBlocks (columnAfter layout column)
  refine ⟨_, closed, fun fuel => ?_⟩
  rw [run, passed.dropStaleKeys]
  dsimp only [Option.bind_eq_bind, Option.bind_some]
  rw [passed.column, closed.rest]

end Stands

end Lexer

end PromptRelay.Yaml
