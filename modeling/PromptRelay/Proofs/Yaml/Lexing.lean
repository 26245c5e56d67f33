import PromptRelay.Proofs.Yaml.Layout
import PromptRelay.Proofs.Yaml.Quoted

/-!
Contract: the pieces of block collections that the lexer reads.

Owns:
- one step for each piece of a block: a plain key with its colon, a plain value to the end
  of its line, a mark of an entry, a value in double quotes, and the end of the text;
- the tokens of a whole text, given how the lexer gets on.

Does not own: flow collections, and what the tokens mean.

Every piece begins with the layout before it, since that is passed over first.
-/

namespace PromptRelay.Yaml

namespace Lexer

/-! ## Letters -/

theorem isInk_of_isLetter {c : Char} (letter : isLetter c = true) : isInk c = true :=
  of_isLetter letter (by decide)

/-- The characters that begin a token of their own. -/
def marks : List Char :=
  ['%', '[', '\x7b', ']', '\x7d', ',', '-', '?', ':', '*', '&', '!', '|', '>', '\'', '"']

theorem notMem_marks_of_isLetter {c : Char} (letter : isLetter c = true) : c ∉ marks := by
  have noMark := of_isLetter (p := fun c => !marks.contains c) letter (by decide)
  simpa using noMark

/-- A letter begins a plain scalar. -/
theorem token_letter {lexer : Lexer} {c : Char} {rest : List Char}
    (standing : lexer.cursor.rest = c :: rest) (letter : isLetter c = true) :
    lexer.token c rest = lexer.plain := by
  have noMark : lexer.cursor.isAtDocumentMark = false := by
    rw [Bool.eq_false_iff, ne_eq, Cursor.isAtDocumentMark_iff, standing]
    rintro ⟨_, _, _, rfl | rfl, same, _⟩ <;> cases same <;> cases letter
  have noIndicator := of_isLetter (p := fun c => !isIndicator c) letter (by decide)
  have starts : startsPlain lexer.isInFlow c rest = true := by
    rw [Bool.not_eq_true'] at noIndicator
    simp [startsPlain, isGap_of_isLetter letter, noIndicator]
  have apart := notMem_marks_of_isLetter letter
  simp only [marks, List.mem_cons, not_or] at apart
  simp [token, noMark, starts, apart]

/-! ## Pieces -/

/-- The blocks at a column that may open a block, and the token that opens it. -/
def entered (token : Token) (column : Nat) : List Int → List Int × List Token
  | indent :: outer =>
    if indent < column then (column :: indent :: outer, [token]) else (indent :: outer, [])
  | [] => ([], [])

namespace Stands

variable {lexer : Lexer} {rest layout word : List Char} {column : Nat} {blocks outer : List Int}
  {indent : Int} {mayStartKey : Bool} {tokens ends : List Token}

theorem dropKey (stands : lexer.Stands rest column blocks mayStartKey tokens) :
    lexer.dropKey = some lexer := by
  rw [Lexer.dropKey, stands.keys]

theorem openBlock (stands : lexer.Stands rest column (indent :: outer) mayStartKey tokens)
    (token : Token) :
    (lexer.openBlock token column).Stands rest column
      (entered token column (indent :: outer)).1 mayStartKey
      (tokens ++ (entered token column (indent :: outer)).2) := by
  have sameIndent : lexer.indent = indent := (List.cons.inj stands.blocks).1
  rw [Lexer.openBlock, stands.inBlock, sameIndent, entered]
  by_cases opening : indent < column
  · rw [if_pos (by simpa using opening), if_pos opening]
    refine ⟨stands.rest, stands.column, ?_, stands.mayStartKey, stands.keys, ?_⟩
    · exact congrArg (List.cons (column : Int)) (sameIndent ▸ stands.blocks)
    · rw [tokens_put]
      exact congrArg (· ++ [token]) stands.tokens
  · rw [if_neg (by simpa using opening), if_neg opening, List.append_nil]
    exact stands

/-- A key may begin where the lexer stands. -/
theorem saveKey (stands : lexer.Stands rest column blocks true tokens) :
    ∃ start : KeyStart, start.number = lexer.count ∧ start.index = lexer.cursor.index ∧
      start.line = lexer.cursor.line ∧ start.column = column ∧
      lexer.saveKey = some { lexer with keys := [some start] } := by
  refine ⟨{
    number := lexer.count
    isRequired := !lexer.isInFlow && lexer.indent = lexer.cursor.column
    index := lexer.cursor.index
    line := lexer.cursor.line
    column := lexer.cursor.column }, rfl, rfl, rfl, stands.column, ?_⟩
  rw [Lexer.saveKey, stands.mayStartKey, stands.dropKey]
  simp [stands.keys, stands.mayStartKey]

end Stands

/-- A colon before a gap is the mark of a value. -/
theorem token_colon {lexer : Lexer} {rest : List Char}
    (standing : lexer.cursor.rest = ':' :: rest) (ends : endsWord rest = true) :
    lexer.token ':' rest = lexer.value := by
  have noMark : lexer.cursor.isAtDocumentMark = false := by
    rw [Bool.eq_false_iff, ne_eq, Cursor.isAtDocumentMark_iff, standing]
    rintro ⟨_, _, _, rfl | rfl, same, _⟩ <;> cases same
  simp [token, noMark, ends]

/-- A colon right after a short scalar makes it a key, and the first key of a mapping opens
it. -/
theorem run_colon {lexer : Lexer} {start : KeyStart} {text : Token} {placed : List Placed}
    {rest : List Char} (keys : lexer.keys = [some start])
    (produced : lexer.produced = { token := text } :: placed)
    (count : lexer.count = start.number + 1) (sameLine : start.line = lexer.cursor.line)
    (isShort : lexer.cursor.index ≤ start.index + longestKey)
    (standing : lexer.cursor.rest = ':' :: rest) (endsKey : endsWord rest = true)
    (inside : lexer.indent ≤ lexer.cursor.column) :
    ∃ next : Lexer,
      next.Stands rest (lexer.cursor.column + 1)
        (entered .blockMapping start.column (lexer.indent :: lexer.outer)).1 false
        (({ lexer with produced := placed }).tokens ++
          (entered .blockMapping start.column (lexer.indent :: lexer.outer)).2 ++
          [.key, text, .value]) ∧
      ∀ fuel, run (fuel + 1) lexer = run fuel next := by
  have inBlock : lexer.isInFlow = false := by
    rw [isInFlow, keys]
    rfl
  have passed : lexer.skipGaps (lexer.cursor.rest.length + 1) = lexer := by
    apply skipGaps_ink
    rw [standing]
    rfl
  have kept : lexer.dropStaleKeys = some lexer := by
    have notStale : lexer.isStale start = false := by
      rw [isStale, sameLine, Bool.or_eq_false_iff, decide_eq_false_iff_not,
        decide_eq_false_iff_not]
      omega
    have same : { lexer with keys := [some start] } = lexer := by
      rw [← keys]
    rw [dropStaleKeys, keys]
    simp [notStale, same]
  have closed : lexer.closeBlocks lexer.cursor.column = lexer := by
    rw [closeBlocks, inBlock, if_neg Bool.false_ne_true]
    cases lexer.outer with
    | nil => rfl
    | cons next outer => rw [closeBlocks.close, if_neg (Int.not_lt.mpr inside)]
  have onward (fuel : Nat) : run (fuel + 1) lexer = lexer.value.bind (run fuel) := by
    rw [run, passed, kept]
    dsimp only [Option.bind_eq_bind, Option.bind_some]
    rw [closed, standing]
    dsimp only
    rw [token_colon standing endsKey]
  have afterColon : (lexer.cursor.skip 1).rest = rest := by
    rw [Cursor.skip_rest, standing]
    rfl
  suffices found : ∃ before indent outer,
      (indent :: outer, before) =
        ((entered .blockMapping start.column (lexer.indent :: lexer.outer)).1,
          (entered .blockMapping start.column (lexer.indent :: lexer.outer)).2 ++ [.key]) ∧
      lexer.value = some (({ lexer with
        produced := { before, token := text } :: placed
        indent, outer
        keys := [none]
        mayStartKey := false }.put .value).skip 1) by
    obtain ⟨before, indent, outer, blocks, isValue⟩ := found
    obtain ⟨sameBlocks, sameTokens⟩ := Prod.mk.inj blocks
    refine ⟨_, ⟨afterColon, rfl, sameBlocks, rfl, rfl, ?_⟩, fun fuel =>
      (onward fuel).trans (congrArg (Option.bind · (run fuel)) isValue)⟩
    rw [sameTokens]
    simp [tokens, put, skip]
  by_cases opening : lexer.indent < start.column
  · refine ⟨[.blockMapping, .key], start.column, lexer.indent :: lexer.outer, ?_, ?_⟩
    · rw [entered, if_pos opening]
      rfl
    · rw [value, keys]
      simp [inBlock, opening, putBefore, produced, count]
  · refine ⟨[.key], lexer.indent, lexer.outer, ?_, ?_⟩
    · rw [entered, if_neg opening]
      rfl
    · rw [value, keys]
      simp [opening, putBefore, produced, count]

namespace Stands

variable {lexer : Lexer} {rest layout word : List Char} {column : Nat} {blocks outer : List Int}
  {indent : Int} {mayStartKey : Bool} {tokens : List Token}

/-- A plain key and its colon. -/
theorem key
    (stands : lexer.Stands (layout ++ (word ++ ':' :: rest)) column (indent :: outer) mayStartKey
      tokens)
    (blank : layout.all isLayout = true)
    (mayStart : (mayStartKey || layout.contains '\n') = true)
    (inside : indent ≤ columnAfter layout column) (isWord : IsWord word)
    (isShort : word.length ≤ longestKey) (endsKey : endsWord rest = true) :
    ∃ next : Lexer,
      next.Stands rest (columnAfter layout column + word.length + 1)
        (entered .blockMapping (columnAfter layout column) (indent :: outer)).1 false
        (tokens ++ (entered .blockMapping (columnAfter layout column) (indent :: outer)).2 ++
          [.key, .scalar (String.ofList word) true, .value]) ∧
      ∀ fuel, run (fuel + 2) lexer = run fuel next := by
  obtain ⟨c, others, rfl⟩ : ∃ c others, word = c :: others :=
    List.exists_cons_of_ne_nil isWord.nonempty
  have letter := isWord.letters c List.mem_cons_self
  have atLetter : lexer.Stands (layout ++ c :: (others ++ ':' :: rest)) column (indent :: outer)
      mayStartKey tokens := stands
  obtain ⟨atWord, standing, onward⟩ := atLetter.run_token blank (isInk_of_isLetter letter)
  rw [leave_of_inside outer inside, mayStart, List.append_nil] at standing
  obtain ⟨start, number, index, line, startColumn, saved⟩ := standing.saveKey
  have scanned := scanPlain_key isWord endsKey standing.rest (atWord.indent + 1).toNat
  -- The lexer once the word has been read.
  let read : Lexer := { atWord with
    keys := [some start]
    cursor := atWord.cursor.skip (c :: others).length
    mayStartKey := false }.put (.scalar (String.ofList (c :: others)) true)
  have isPlain : atWord.plain = some read := by
    rw [plain, saved]
    dsimp only [Option.bind_eq_bind, Option.bind_some]
    have inBlock : { atWord with keys := [some start] }.isInFlow = false := rfl
    rw [inBlock, scanned]
    rfl
  have keys : read.keys = [some start] := rfl
  have produced : read.produced =
      { token := .scalar (String.ofList (c :: others)) true } :: atWord.produced := rfl
  have count : read.count = start.number + 1 := by
    rw [number]
    rfl
  have short : read.cursor.index ≤ start.index + longestKey := by
    change atWord.cursor.index + (c :: others).length ≤ _
    rw [index]
    omega
  have atColon : read.cursor.rest = ':' :: rest := by
    change (atWord.cursor.skip (c :: others).length).rest = ':' :: rest
    have divided : c :: (others ++ ':' :: rest) = (c :: others) ++ ':' :: rest := rfl
    rw [Cursor.skip_rest, standing.rest, divided, List.drop_left]
  have sameBlocks : read.indent :: read.outer = indent :: outer := standing.blocks
  have sameColumn : read.cursor.column = columnAfter layout column + (c :: others).length := by
    change atWord.cursor.column + (c :: others).length = _
    rw [standing.column]
  have stillInside : read.indent ≤ read.cursor.column := by
    rw [(List.cons.inj sameBlocks).1, sameColumn]
    omega
  obtain ⟨next, nextStands, nextLeads⟩ :=
    run_colon keys produced count line short atColon endsKey stillInside
  rw [sameBlocks, startColumn, sameColumn] at nextStands
  have sameTokens : { read with produced := atWord.produced }.tokens = tokens := standing.tokens
  rw [sameTokens] at nextStands
  refine ⟨next, nextStands, fun fuel => ?_⟩
  rw [onward, token_letter standing.rest letter, isPlain]
  exact nextLeads fuel

/-- A plain value, up to the next line, which lies no further in. -/
theorem line {indentation : Nat}
    (stands : lexer.Stands
      (' ' :: (word ++ '\n' :: (List.replicate indentation ' ' ++ rest))) column
      (indent :: outer) false tokens)
    (inside : indent ≤ column) (isWord : IsWord word) (ends : rest.head?.any isGap = false)
    (outside : (indentation : Int) ≤ indent) :
    ∃ next : Lexer,
      next.Stands rest indentation (indent :: outer) true
        (tokens ++ [.scalar (String.ofList word) true]) ∧
      ∀ fuel, run (fuel + 1) lexer = run fuel next := by
  obtain ⟨c, others, rfl⟩ : ∃ c others, word = c :: others :=
    List.exists_cons_of_ne_nil isWord.nonempty
  have letter := isWord.letters c List.mem_cons_self
  have atLetter : lexer.Stands ([' '] ++ c ::
      (others ++ '\n' :: (List.replicate indentation ' ' ++ rest))) column (indent :: outer) false
      tokens := stands
  obtain ⟨atWord, standing, onward⟩ := atLetter.run_token rfl (isInk_of_isLetter letter)
  have furtherIn : indent ≤ columnAfter [' '] column := by
    change indent ≤ ((column + 1 : Nat) : Int)
    omega
  rw [leave_of_inside outer furtherIn, List.append_nil] at standing
  have sameIndent : atWord.indent = indent := (List.cons.inj standing.blocks).1
  have noKey : atWord.saveKey = some atWord := by
    rw [Lexer.saveKey, standing.mayStartKey]
    rfl
  have lessFar : indentation < (atWord.indent + 1).toNat := by
    rw [sameIndent]
    omega
  obtain ⟨next, scanned, left, nextColumn⟩ := scanPlain_line isWord standing.rest ends lessFar
  let read : Lexer := { atWord with cursor := next, mayStartKey := true }.put
    (.scalar (String.ofList (c :: others)) true)
  have isPlain : atWord.plain = some read := by
    rw [plain, noKey]
    dsimp only [Option.bind_eq_bind, Option.bind_some]
    rw [standing.inBlock, scanned]
    rfl
  refine ⟨read, ⟨left, nextColumn, standing.blocks, rfl, standing.keys, ?_⟩, fun fuel => ?_⟩
  · rw [tokens_put]
    exact congrArg (· ++ [Token.scalar (String.ofList (c :: others)) true]) standing.tokens
  · rw [onward, token_letter standing.rest letter, isPlain]
    rfl

/-- The mark of an entry. The first entry of a sequence opens it. -/
theorem entry
    (stands : lexer.Stands (layout ++ '-' :: rest) column blocks mayStartKey tokens)
    (blank : layout.all isLayout = true)
    (mayStart : (mayStartKey || layout.contains '\n') = true) (endsMark : endsWord rest = true)
    {ends : List Token}
    (left : leave (columnAfter layout column) blocks = (indent :: outer, ends)) :
    ∃ next : Lexer,
      next.Stands rest (columnAfter layout column + 1)
        (entered .blockSequence (columnAfter layout column) (indent :: outer)).1 true
        (tokens ++ ends ++ (entered .blockSequence (columnAfter layout column) (indent :: outer)).2
          ++ [.blockEntry]) ∧
      ∀ fuel, run (fuel + 1) lexer = run fuel next := by
  obtain ⟨atMark, standing, onward⟩ := stands.run_token blank (by decide)
  rw [left, mayStart] at standing
  have noMark : atMark.cursor.isAtDocumentMark = false := by
    rw [Bool.eq_false_iff, ne_eq, Cursor.isAtDocumentMark_iff, standing.rest]
    rintro ⟨_, _, _, rfl | rfl, same, _⟩ <;> cases same
    cases endsMark
  have isEntry : atMark.token '-' rest = atMark.blockEntry := by
    simp [token, noMark, endsMark]
  have opened := standing.openBlock .blockSequence
  let read : Lexer := ({ atMark.openBlock .blockSequence (columnAfter layout column) with
    mayStartKey := true }.put .blockEntry).skip 1
  have isRead : atMark.blockEntry = some read := by
    rw [blockEntry, standing.mayStartKey, standing.column, opened.dropKey]
    simp [read]
  refine ⟨read, ⟨?_, ?_, opened.blocks, rfl, opened.keys, ?_⟩, fun fuel => ?_⟩
  · exact congrArg (List.drop 1) opened.rest
  · exact congrArg (· + 1) opened.column
  · exact (tokens_put ..).trans (congrArg (· ++ [Token.blockEntry]) opened.tokens)
  · rw [onward, isEntry, isRead]
    rfl

/-- A value in double quotes is read as the folded text, or not at all. -/
theorem quoted {text : String}
    (stands : lexer.Stands (' ' :: (Json.quoted text ++ rest)) column (indent :: outer) false
      tokens)
    (inside : indent ≤ column) :
    match folded? false {} text.toList with
    | none => ∀ fuel, run fuel lexer = none
    | some folded => ∃ (next : Lexer) (nextColumn : Nat),
        next.Stands rest nextColumn (indent :: outer) false
          (tokens ++ [.scalar (String.ofList folded) false]) ∧
        ∀ fuel, run (fuel + 1) lexer = run fuel next := by
  have atSpace : lexer.Stands ([' '] ++ '"' :: (text.toList.flatMap Json.escape ++ ['"'] ++ rest))
      column (indent :: outer) false tokens := stands
  obtain ⟨atQuote, standing, onward⟩ := atSpace.run_token rfl (by decide)
  have furtherIn : indent ≤ columnAfter [' '] column := by
    change indent ≤ ((column + 1 : Nat) : Int)
    omega
  rw [leave_of_inside outer furtherIn, List.append_nil] at standing
  have noMark : atQuote.cursor.isAtDocumentMark = false := by
    rw [Bool.eq_false_iff, ne_eq, Cursor.isAtDocumentMark_iff, standing.rest]
    rintro ⟨_, _, _, rfl | rfl, same, _⟩ <;> cases same
  have noKey : atQuote.saveKey = some atQuote := by
    rw [Lexer.saveKey, standing.mayStartKey]
    rfl
  have isQuoted : atQuote.token '"' (text.toList.flatMap Json.escape ++ ['"'] ++ rest) =
      (scanQuoted '"' atQuote.cursor).map fun found =>
        { atQuote with cursor := found.2, mayStartKey := false }.put
          (.scalar (String.ofList found.1) false) := by
    have isScalar : atQuote.token '"' (text.toList.flatMap Json.escape ++ ['"'] ++ rest) =
        atQuote.quoted '"' := by
      simp [token, noMark]
    rw [isScalar, Lexer.quoted, keyPart, noKey]
    dsimp only [Option.bind_eq_bind, Option.bind_some]
    cases scanQuoted '"' atQuote.cursor <;> rfl
  have scanned : (scanQuoted '"' atQuote.cursor).map (fun found => (found.1, found.2.rest)) =
      (folded? false {} text.toList).map (·, rest) := scanQuoted_quoted standing.rest
  cases isFolded : folded? false {} text.toList with
  | none =>
      rw [isFolded, Option.map_none, Option.map_eq_none_iff] at scanned
      intro fuel
      cases fuel with
      | zero => rfl
      | succ fuel =>
          rw [onward, isQuoted, scanned]
          rfl
  | some folded =>
      rw [isFolded, Option.map_some, Option.map_eq_some_iff] at scanned
      obtain ⟨⟨word, after⟩, isScanned, same⟩ := scanned
      obtain ⟨rfl, left⟩ := Prod.mk.inj same
      let read : Lexer := { atQuote with cursor := after, mayStartKey := false }.put
        (.scalar (String.ofList word) false)
      refine ⟨read, after.column, ⟨left, rfl, standing.blocks, rfl, standing.keys, ?_⟩, ?_⟩
      · rw [tokens_put]
        exact congrArg (· ++ [Token.scalar (String.ofList word) false]) standing.tokens
      · intro fuel
        rw [onward, isQuoted, isScanned]
        rfl

/-- At the end of the text all blocks end. -/
theorem finish (stands : lexer.Stands layout column blocks mayStartKey tokens)
    (blank : layout.all isLayout = true) (fuel : Nat) :
    ∃ last : Lexer, run (fuel + 1) lexer = some last ∧
      last.tokens = tokens ++ (leave (columnAfter layout column) blocks).2 ++
        (leave (-1) (leave (columnAfter layout column) blocks).1).2 ++ [.streamEnd] := by
  have atEnd : lexer.Stands (layout ++ []) column blocks mayStartKey tokens := by
    rw [List.append_nil]
    exact stands
  have room : layout.length < lexer.cursor.rest.length + 1 := by
    rw [stands.rest]
    omega
  have passed := atEnd.skipGaps blank rfl room
  have closed := passed.closeBlocks (columnAfter layout column)
  obtain ⟨outside, isOutside, left⟩ : ∃ outside : Lexer,
      Lexer.closeBlocks (-1) ((lexer.skipGaps (lexer.cursor.rest.length + 1)).closeBlocks
        (columnAfter layout column)) = outside ∧ outside.Stands _ _ _ _ _ :=
    ⟨_, rfl, closed.closeBlocks (-1)⟩
  refine ⟨{ outside with mayStartKey := false }.put .streamEnd, ?_, ?_⟩
  · rw [run, passed.dropStaleKeys]
    dsimp only [Option.bind_eq_bind, Option.bind_some]
    rw [passed.column, closed.rest]
    dsimp only
    rw [Lexer.finish, leaveBlocks, isOutside, left.dropKey]
    rfl
  · rw [tokens_put]
    exact congrArg (· ++ [Token.streamEnd]) left.tokens

end Stands

end Lexer

/-! ## Texts -/

/-- The tokens of a text without a mark of its encoding. -/
theorem tokens?_of_noMark {text : String} (noMark : text.toList.head? ≠ some '\ufeff') :
    tokens? text =
      if text.toList.all isPrintable then
        (Lexer.run (text.toList.length + 2) { cursor := Cursor.start text.toList }).map
          Lexer.tokens
      else none := by
  unfold tokens?
  split
  case h_1 rest starts =>
    rw [starts] at noMark
    exact absurd rfl noMark
  case h_2 =>
    dsimp only [Option.bind_eq_bind]
    cases Lexer.run (text.toList.length + 2) { cursor := Cursor.start text.toList } <;> rfl

end PromptRelay.Yaml
