import PromptRelay.Yaml.Cursor

/-!
Contract: how scalars are written.

Owns:
- what blanks and line breaks between words stand for;
- plain scalars, scalars in single and in double quotes, and block scalars.

Does not own: where scalars may stand.
-/

namespace PromptRelay.Yaml

open Text

/-! ## Between words -/

/-- Blanks and line breaks between two words. -/
structure Gap where
  spaces : List Char := []
  firstBreak : List Char := []
  moreBreaks : List Char := []
  isBroken : Bool := false
deriving Repr

/-- What a gap is in the value: blanks stay, one line break becomes a space, of
several the first one is dropped. -/
def Gap.value (gap : Gap) : List Char :=
  if !gap.isBroken then gap.spaces
  else if gap.firstBreak = ['\n'] then
    if gap.moreBreaks.isEmpty then [' '] else gap.moreBreaks
  else gap.firstBreak ++ gap.moreBreaks

/-- Takes blanks and line breaks. After a line break no tab may stand before the
given column. `fuel` bounds their number. -/
def scanGap (tabLimit : Nat) : (fuel : Nat) → Gap → Cursor → Option (Gap × Cursor)
  | 0, gap, cursor => some (gap, cursor)
  | fuel + 1, gap, cursor =>
    match cursor.newLine? with
    | some (newLine, next) =>
      let gap := if gap.isBroken then { gap with moreBreaks := gap.moreBreaks ++ newLine }
        else { gap with spaces := [], firstBreak := newLine, isBroken := true }
      scanGap tabLimit fuel gap next
    | none =>
      match cursor.rest with
      | c :: _ =>
        if !isSpaceOrTab c then some (gap, cursor)
        else if gap.isBroken then
          if c = '\t' && cursor.column < tabLimit then none
          else scanGap tabLimit fuel gap (cursor.skip 1)
        else scanGap tabLimit fuel { gap with spaces := gap.spaces ++ [c] } (cursor.skip 1)
      | [] => some (gap, cursor)

/-! ## Plain scalars -/

def isFlowMark (c : Char) : Bool :=
  c == ',' || c == '[' || c == ']' || c == '\x7b' || c == '\x7d'

/-- The characters of a plain scalar up to a gap or a mark that ends it. Inside
of brackets a colon may not stand before a mark. -/
def scanPlainWord (isInFlow : Bool) : List Char → Option (List Char)
  | [] => some []
  | c :: rest =>
    if isGap c then some []
    else if isInFlow && c = ':' && (rest.head?.any fun d => isFlowMark d || d == '?') then none
    else if c = ':' && endsWord rest then some []
    else if isInFlow && isFlowMark c then some []
    else (scanPlainWord isInFlow rest).map (c :: ·)

/-- The text of a scalar, whether a line break follows it, and what follows. -/
structure PlainScalar where
  text : List Char
  isBroken : Bool
  next : Cursor

/-- Goes on with a plain scalar after a gap. In blocks its lines are indented at
least to the given column. -/
def scanPlainFrom (isInFlow : Bool) (indent : Nat) :
    (fuel : Nat) → Gap → Cursor → Option PlainScalar
  | 0, _, _ => none
  | fuel + 1, gap, cursor =>
    if cursor.isAtDocumentMark || cursor.rest.head? = some '#' then
      some { text := [], isBroken := gap.isBroken, next := cursor }
    else do
      let word ← scanPlainWord isInFlow cursor.rest
      let next := cursor.skip word.length
      let (start, gap) := if word.isEmpty then ([], gap) else (gap.value ++ word, {})
      if next.rest.head?.any isGap then
        let (gap, next) ← scanGap indent (next.rest.length + 1) gap next
        if !isInFlow && next.column < indent then
          some { text := start, isBroken := gap.isBroken, next }
        else
          let more ← scanPlainFrom isInFlow indent fuel gap next
          some { more with text := start ++ more.text }
      else
        some { text := start, isBroken := gap.isBroken, next }

def scanPlain (isInFlow : Bool) (indent : Nat) (cursor : Cursor) : Option PlainScalar :=
  scanPlainFrom isInFlow indent (cursor.rest.length + 1) {} cursor

/-! ## Quoted scalars -/

/-- How many hexadecimal digits follow the letter of an escape. -/
def escapeWidth? (letter : Char) : Option Nat :=
  if letter = 'x' then some 2
  else if letter = 'u' then some 4
  else if letter = 'U' then some 8
  else none

/-- What an escape with a letter alone stands for. -/
def escaped? (letter : Char) : Option Char :=
  match letter with
  | '0' => some '\x00'
  | 'a' => some '\x07'
  | 'b' => some '\x08'
  | 't' => some '\t'
  | '\t' => some '\t'
  | 'n' => some '\n'
  | 'v' => some '\x0b'
  | 'f' => some '\x0c'
  | 'r' => some '\r'
  | 'e' => some '\x1b'
  | ' ' => some ' '
  | '"' => some '"'
  | '/' => some '/'
  | '\\' => some '\\'
  | 'N' => some '\x85'
  | '_' => some '\xa0'
  | 'L' => some '\u2028'
  | 'P' => some '\u2029'
  | _ => none

/-- The character of an escape with digits. -/
def coded? (digits : List Char) : Option Char := do
  let values ← digits.mapM hexValue?
  let code := values.foldl (fun code value => 16 * code + value) 0
  if (0xD800 ≤ code && code ≤ 0xDFFF) || 0x10FFFF < code then none else some (Char.ofNat code)

/-- The characters of a quoted scalar up to a gap or the closing quote, and
whether an escaped line break ended them. -/
def scanQuotedWord (quote : Char) : (fuel : Nat) → Cursor → Option (List Char × Bool × Cursor)
  | 0, _ => none
  | fuel + 1, cursor =>
    let put (c : Char) (next : Cursor) := do
      let (word, isBroken, next) ← scanQuotedWord quote fuel next
      some (c :: word, isBroken, next)
    match cursor.rest with
    | [] => some ([], false, cursor)
    | c :: rest =>
      if isGap c then some ([], false, cursor)
      else if c = quote then
        if quote = '\'' && rest.head? = some '\'' then put '\'' (cursor.skip 2)
        else some ([], false, cursor)
      else if quote = '"' && c = '\\' then
        match (cursor.skip 1).newLine? with
        | some (_, next) => some ([], true, next)
        | none => do
          let letter ← rest.head?
          match escapeWidth? letter with
          | some width =>
            let digits := rest.tail.take width
            if digits.length = width then put (← coded? digits) (cursor.skip (width + 2))
            else none
          | none => put (← escaped? letter) (cursor.skip 2)
      else put c (cursor.skip 1)

def scanQuotedFrom (quote : Char) : (fuel : Nat) → Cursor → Option (List Char × Cursor)
  | 0, _ => none
  | fuel + 1, cursor =>
    if cursor.isAtDocumentMark || cursor.rest.isEmpty then none
    else do
      let (word, isBroken, next) ← scanQuotedWord quote (cursor.rest.length + 1) cursor
      if next.rest.head? = some quote then
        some (word, next.skip 1)
      else
        let (gap, next) ← scanGap 0 (next.rest.length + 1) { isBroken } next
        let (text, next) ← scanQuotedFrom quote fuel next
        some (word ++ gap.value ++ text, next)

/-- A scalar in quotes of the given kind, which stand here. -/
def scanQuoted (quote : Char) (cursor : Cursor) : Option (List Char × Cursor) :=
  scanQuotedFrom quote (cursor.rest.length + 1) (cursor.skip 1)

/-! ## Block scalars -/

/-- What becomes of the line breaks at the end of a block scalar. -/
inductive Chomping where
  | strip
  | clip
  | keep
deriving DecidableEq, Repr

def scanChomping (cursor : Cursor) : Option Chomping × Cursor :=
  match cursor.rest with
  | '+' :: _ => (some .keep, cursor.skip 1)
  | '-' :: _ => (some .strip, cursor.skip 1)
  | _ => (none, cursor)

/-- The digit that tells how far a block scalar is indented; zero is refused. -/
def scanIncrement (cursor : Cursor) : Option (Option Nat × Cursor) :=
  match cursor.rest with
  | c :: _ =>
    if !isDigit c then some (none, cursor)
    else if c = '0' then none
    else some (some (digitValue c), cursor.skip 1)
  | [] => some (none, cursor)

/-- The two marks after the indicator, in either order. -/
def scanBlockHeader (cursor : Cursor) : Option (Chomping × Option Nat × Cursor) := do
  match scanChomping cursor with
  | (some chomping, cursor) =>
    let (increment, cursor) ← scanIncrement cursor
    some (chomping, increment, cursor)
  | (none, cursor) =>
    let (increment, cursor) ← scanIncrement cursor
    match increment with
    | none => some (.clip, none, cursor)
    | some _ =>
      let (chomping, cursor) := scanChomping cursor
      some (chomping.getD .clip, increment, cursor)

/-- Takes indentation and empty lines. Without a known indentation the deepest one
that is met is remembered. `fuel` bounds the number of lines. -/
def scanBlockBreaks (indent : Option Nat) : (fuel : Nat) → (deepest : Nat) →
    (breaks : List Char) → Cursor → Option (Nat × List Char × Cursor)
  | 0, deepest, breaks, cursor => some (deepest, breaks, cursor)
  | fuel + 1, deepest, breaks, cursor =>
    let spaces := (cursor.rest.takeWhile (· == ' ')).length
    let count := match indent with
      | none => spaces
      | some indent => min spaces (indent - cursor.column)
    let cursor := cursor.skip count
    let deepest := max deepest cursor.column
    let isIndenting := match indent with
      | none => true
      | some indent => cursor.column < indent
    if isIndenting && cursor.rest.head? = some '\t' then none
    else
      match cursor.newLine? with
      | some (newLine, next) => scanBlockBreaks indent fuel deepest (breaks ++ newLine) next
      | none => some (deepest, breaks, cursor)

/-- What has been read between two lines of a block scalar. -/
structure LineGap where
  /-- The break at the end of the line before. -/
  lineBreak : List Char := []
  /-- The breaks of the empty lines after it. -/
  emptyLines : List Char := []
  /-- Whether the line before begins with a blank. -/
  startsBlank : Bool := false

/-- What stands in the value between two lines. Unless it is to be kept as it is,
one break between lines without leading blanks becomes a space. -/
def LineGap.value (isLiteral : Bool) (line : List Char) (gap : LineGap) : List Char :=
  let isBlank := line.head?.any isSpaceOrTab
  let isFolded := !isLiteral && gap.lineBreak = ['\n'] && !gap.startsBlank && !isBlank
  let joint := if isFolded then (if gap.emptyLines.isEmpty then [' '] else [])
    else gap.lineBreak
  joint ++ gap.emptyLines

/-- What stands in the value after the last line. -/
def LineGap.ending (gap : LineGap) : Chomping → List Char
  | .strip => []
  | .clip => gap.lineBreak
  | .keep => gap.lineBreak ++ gap.emptyLines

def scanBlockLines (isLiteral : Bool) (chomping : Chomping) (indent : Nat) :
    (fuel : Nat) → LineGap → Cursor → Option (List Char × Cursor)
  | 0, _, _ => none
  | fuel + 1, gap, cursor =>
    if cursor.column = indent && !cursor.rest.isEmpty then do
      let (line, next) := cursor.takeWhile fun c => !isBreak c
      let (lineBreak, next) := next.newLine?.getD ([], next)
      let (_, emptyLines, next) ←
        scanBlockBreaks (some indent) (next.rest.length + 1) 0 [] next
      let following : LineGap :=
        { lineBreak, emptyLines, startsBlank := line.head?.any isSpaceOrTab }
      let (text, next) ← scanBlockLines isLiteral chomping indent fuel following next
      some (gap.value isLiteral line ++ line ++ text, next)
    else
      some (gap.ending chomping, cursor)

/-- A block scalar, whose indicator stands here, below a block at the given
column. -/
def scanBlock (parent : Int) (isLiteral : Bool) (cursor : Cursor) :
    Option (List Char × Cursor) := do
  let (chomping, increment, cursor) ← scanBlockHeader (cursor.skip 1)
  let cursor ← cursor.finishLine?
  let given := increment.map fun increment =>
    if 0 ≤ parent then parent.toNat + increment else increment
  let (deepest, emptyLines, cursor) ←
    scanBlockBreaks given (cursor.rest.length + 1) 0 [] cursor
  let indent := given.getD (max deepest (max (parent + 1) 1).toNat)
  scanBlockLines isLiteral chomping indent (cursor.rest.length + 1) { emptyLines } cursor

end PromptRelay.Yaml
