import PromptRelay.Text.Blank
import PromptRelay.Text.Case
import PromptRelay.Text.Letters
import PromptRelay.Text.Natural
import PromptRelay.Text.Pattern
import PromptRelay.Text.Pieces
import PromptRelay.Text.Word

/-!
Contract: how patterns are written.

Owns:
- characters, classes, edges, groups, alternatives and repetitions;
- the switches that make a pattern blind to case, let it see lines, or let the
  point match line ends.

Does not own: matching. Classes named after Unicode properties and patterns laid
out freely are refused.
-/

namespace PromptRelay.Text.Pattern

abbrev Reader (α : Type) := List Char → Option (α × List Char)

/-- The switches that hold for a part of a pattern. -/
structure Switches where
  ignoresCase : Bool := false
  seesLines : Bool := false
  pointMatchesAll : Bool := false
deriving DecidableEq, Repr, Inhabited

/-! ## Characters -/

/-- Whether a class has a character, or one that differs from it in case only. -/
def acceptsAnyCase (accepts : Char → Bool) (c : Char) : Bool :=
  accepts c || (upperCase c).any accepts || (lowerCase c).any accepts

def Switches.widen (switches : Switches) (accepts : Char → Bool) : Char → Bool :=
  if switches.ignoresCase then acceptsAnyCase accepts else accepts

def isLetter (c : Char) : Bool :=
  ('a' ≤ c && c ≤ 'z') || ('A' ≤ c && c ≤ 'Z')

/-- The class of this name, for use inside of other classes. -/
def namedClass? (name : String) : Option (Char → Bool) :=
  match name with
  | "alnum" => some fun c => isLetter c || isDigit c
  | "alpha" => some isLetter
  | "ascii" => some fun c => c.toNat < 0x80
  | "blank" => some fun c => c == ' ' || c == '\t'
  | "cntrl" => some fun c => c.toNat < 0x20 || c.toNat == 0x7F
  | "digit" => some isDigit
  | "graph" => some fun c => 0x21 ≤ c.toNat && c.toNat ≤ 0x7E
  | "lower" => some fun c => 'a' ≤ c && c ≤ 'z'
  | "print" => some fun c => 0x20 ≤ c.toNat && c.toNat ≤ 0x7E
  | "punct" => some fun c =>
    0x21 ≤ c.toNat && c.toNat ≤ 0x7E && !isLetter c && !isDigit c
  | "space" => some fun c => c == ' ' || (0x09 ≤ c.toNat && c.toNat ≤ 0x0D)
  | "upper" => some fun c => 'A' ≤ c && c ≤ 'Z'
  | "word" => some fun c => isLetter c || isDigit c || c == '_'
  | "xdigit" => some fun c => (hexValue? c).isSome
  | _ => none

/-- What an escape in a pattern or a class stands for. -/
inductive Escape where
  | char (c : Char)
  | among (accepts : Char → Bool)
  | edge (holds : (before after : Option Char) → Bool)

def charOf? (digits : List Char) : Option Char := do
  let values ← digits.mapM hexValue?
  let code := values.foldl (fun code value => 16 * code + value) 0
  if digits.isEmpty || 8 < digits.length then none
  else if code < 0xD800 || (0xDFFF < code && code ≤ 0x10FFFF) then some (Char.ofNat code)
  else none

/-- The character that hexadecimal digits name: a fixed number of them, or any in
braces. -/
def readCode (count : Nat) : Reader Escape
  | '\x7b' :: rest => do
    let digits ← before? '\x7d' rest
    some (.char (← charOf? digits), rest.drop (digits.length + 1))
  | cs =>
    if cs.length < count then none
    else do some (.char (← charOf? (cs.take count)), cs.drop count)

/-- What follows a backslash. -/
def readEscape : Reader Escape
  | [] => none
  | c :: rest =>
    let char (c : Char) := some (Escape.char c, rest)
    let among (accepts : Char → Bool) := some (Escape.among accepts, rest)
    let edge (holds : Option Char → Option Char → Bool) := some (Escape.edge holds, rest)
    match c with
    | 'd' => among isDigit
    | 'D' => among fun c => !isDigit c
    | 's' => among isBlank
    | 'S' => among fun c => !isBlank c
    | 'w' => among isWordChar
    | 'W' => among fun c => !isWordChar c
    | 'b' => edge isWordEdge
    | 'B' => edge fun before after => !isWordEdge before after
    | '<' => edge fun before after => !isInWord before && isInWord after
    | '>' => edge fun before after => isInWord before && !isInWord after
    | 'A' => edge fun before _ => before.isNone
    | 'z' => edge fun _ after => after.isNone
    | 'n' => char '\n'
    | 't' => char '\t'
    | 'r' => char '\r'
    | 'f' => char '\x0c'
    | 'v' => char '\x0b'
    | 'a' => char '\x07'
    | 'x' => readCode 2 rest
    | 'u' => readCode 4 rest
    | 'U' => readCode 8 rest
    | c => if c.toNat < 0x80 && !isLetter c && !isDigit c then char c else none

/-! ## Classes -/

/-- An item of a class: a single character, which may begin a range, or a class. -/
def readClassItem : Reader (Char ⊕ (Char → Bool))
  | '\\' :: rest => do
    match ← readEscape rest with
    | (.char c, rest) => some (.inl c, rest)
    | (.among accepts, rest) => some (.inr accepts, rest)
    | (.edge _, _) => none
  | c :: rest => some (.inl c, rest)
  | [] => none

/-- A class between colons in brackets. -/
def readNamedClass (cs : List Char) : Option ((Char → Bool) × List Char) := do
  let rest ← after? ['[', ':'] cs
  let (isNegated, rest) := match rest with
    | '^' :: rest => (true, rest)
    | rest => (false, rest)
  let name := rest.takeWhile isLetter
  let accepts ← namedClass? (String.ofList name)
  let rest ← after? [':', ']'] (rest.drop name.length)
  some (fun c => accepts c != isNegated, rest)

/-- The operators between the parts of a class. -/
def readClassOperator : Reader ((left right : Bool) → Bool)
  | '&' :: '&' :: rest => some (fun left right => left && right, rest)
  | '-' :: '-' :: rest => some (fun left right => left && !right, rest)
  | '~' :: '~' :: rest => some (fun left right => left != right, rest)
  | _ => none

mutual

/-- A class, after its opening bracket. A closing bracket may be its first item.
What differs in case only is added before the class is negated. -/
def readClass : (fuel : Nat) → Switches → Reader (Char → Bool)
  | 0, _, _ => none
  | fuel + 1, switches, cs => do
    let (isNegated, rest) := match cs with
      | '^' :: rest => (true, rest)
      | rest => (false, rest)
    let dashes := rest.takeWhile (· == '-')
    let rest := rest.drop dashes.length
    let (first, rest) := match dashes, rest with
      | [], ']' :: rest => ([']'], rest)
      | dashes, rest => (dashes, rest)
    let (accepts, rest) ← readClassItems fuel switches first.contains rest
    some (fun c => switches.widen accepts c != isNegated, rest)

/-- The items of a class up to its closing bracket, after those that have been
read. -/
def readClassItems : (fuel : Nat) → Switches → (accepted : Char → Bool) →
    Reader (Char → Bool)
  | 0, _, _, _ => none
  | fuel + 1, switches, accepted, cs =>
    let also (accepts : Char → Bool) (c : Char) := accepted c || accepts c
    match cs with
    | ']' :: rest => some (accepted, rest)
    | '[' :: inner =>
      match readNamedClass cs with
      | some (accepts, rest) => readClassItems fuel switches (also accepts) rest
      | none => do
        let (accepts, rest) ← readClass fuel switches inner
        readClassItems fuel switches (also accepts) rest
    | cs =>
      match readClassOperator cs with
      | some (combine, rest) => do
        let (accepts, rest) ← readClassItems fuel switches (fun _ => false) rest
        some (fun c => combine (accepted c) (accepts c), rest)
      | none => do
        match ← readClassItem cs with
        | (.inr accepts, rest) => readClassItems fuel switches (also accepts) rest
        | (.inl first, '-' :: next :: rest) =>
          if next = ']' || next = '-' then
            readClassItems fuel switches (also (· == first)) ('-' :: next :: rest)
          else do
            match ← readClassItem (next :: rest) with
            | (.inl last, rest) =>
              if last < first then none
              else readClassItems fuel switches (also fun c => first ≤ c && c ≤ last) rest
            | (.inr _, _) => none
        | (.inl c, rest) => readClassItems fuel switches (also (· == c)) rest

end

/-! ## Repetitions -/

/-- The largest number of repetitions. -/
def repetitionLimit : Nat := 1000

def readCount (cs : List Char) : Option Nat × List Char :=
  let digits := cs.takeWhile isDigit
  (if digits.isEmpty then none else some (decimalValue digits), cs.drop digits.length)

/-- Bounds in braces, after the opening one. -/
def readBounds (cs : List Char) : Option ((Nat × Option Nat) × List Char) :=
  let (least, rest) := readCount cs
  match least, rest with
  | some least, '\x7d' :: rest => some ((least, some least), rest)
  | least, ',' :: rest =>
    match least, readCount rest with
    | some least, (none, '\x7d' :: rest) => some ((least, none), rest)
    | least, (some most, '\x7d' :: rest) => some ((least.getD 0, some most), rest)
    | _, _ => none
  | _, _ => none

def repeated (pattern : Pattern) (least : Nat) : (most : Option Nat) → Option Pattern
  | none =>
    if repetitionLimit < least then none
    else some (.sequence (pattern.times least) (.many pattern))
  | some most =>
    if most < least || repetitionLimit < most then none
    else some (.sequence (pattern.times least) (pattern.upTo (most - least)))

/-- Applies the marks of repetition that follow a pattern. A question mark behind
one asks for short matches, which does not change whether there is one. -/
def readRepetitions : (fuel : Nat) → Pattern → Reader Pattern
  | 0, _, _ => none
  | fuel + 1, pattern, cs =>
    let again (pattern : Pattern) (rest : List Char) :=
      match rest with
      | '?' :: rest => readRepetitions fuel pattern rest
      | rest => readRepetitions fuel pattern rest
    match cs with
    | '*' :: rest => again (.many pattern) rest
    | '+' :: rest => again (.sequence pattern (.many pattern)) rest
    | '?' :: rest => again pattern.atMostOnce rest
    | '\x7b' :: rest => do
      let ((least, most), rest) ← readBounds rest
      again (← repeated pattern least most) rest
    | rest => some (pattern, rest)

/-! ## Patterns -/

/-- The letters of switches. Two of them change nothing that matters here. -/
def switchLetters : List Char := ['i', 'm', 's', 'U', 'u']

/-- Turns switches on and, after a dash, off. No letter may be repeated. -/
def readSwitches (switches : Switches) : Reader Switches := fun cs =>
  let letters := cs.takeWhile fun c => c ≠ ')' && c ≠ ':'
  let on := letters.takeWhile (· ≠ '-')
  let off := letters.drop on.length
  let all := on ++ off.tail
  if off = ['-'] || !all.all switchLetters.contains || !decide all.Nodup then none
  else
    let set (letter : Char) (before : Bool) :=
      if on.contains letter then true else if off.contains letter then false else before
    some ({
      ignoresCase := set 'i' switches.ignoresCase
      seesLines := set 'm' switches.seesLines
      pointMatchesAll := set 's' switches.pointMatchesAll }, cs.drop letters.length)

/-- The name of a group and its closing bracket. -/
def readGroupName (cs : List Char) : Option (List Char) := do
  let name ← before? '>' cs
  match name with
  | [] => none
  | first :: more =>
    if (isLetter first || first = '_') && more.all isWordChar then
      some (cs.drop (name.length + 1))
    else
      none

def Switches.point (switches : Switches) : Pattern :=
  .one fun c => switches.pointMatchesAll || c != '\n'

def Switches.start (switches : Switches) : Pattern :=
  .edge fun before _ => before.isNone || (switches.seesLines && before == some '\n')

def Switches.stop (switches : Switches) : Pattern :=
  .edge fun _ after => after.isNone || (switches.seesLines && after == some '\n')

def Escape.toPattern (switches : Switches) : Escape → Pattern
  | .char c => .one (switches.widen (· == c))
  | .among accepts => .one accepts
  | .edge holds => .edge holds

mutual

/-- Alternatives, up to a closing bracket or the end. -/
def readChoice : (fuel : Nat) → Switches → Reader Pattern
  | 0, _, _ => none
  | fuel + 1, switches, cs => do
    let ((pattern, switches), rest) ← readSequence fuel switches .empty cs
    match rest with
    | '|' :: rest =>
      let (other, rest) ← readChoice fuel switches rest
      some (.choice pattern other, rest)
    | rest => some (pattern, rest)

/-- Repeated atoms one after the other, and the switches that hold after them. -/
def readSequence : (fuel : Nat) → Switches → (done : Pattern) → Reader (Pattern × Switches)
  | 0, _, _, _ => none
  | fuel + 1, switches, done, cs =>
    match cs with
    | [] => some ((done, switches), [])
    | '|' :: _ | ')' :: _ => some ((done, switches), cs)
    | '(' :: '?' :: ')' :: _ => none
    | '(' :: '?' :: rest =>
      match readSwitches switches rest with
      | some (changed, ')' :: rest) => readSequence fuel changed done rest
      | _ => readAtom fuel switches done cs
    | _ => readAtom fuel switches done cs

/-- One atom with its repetitions, and the rest of the sequence. -/
def readAtom : (fuel : Nat) → Switches → (done : Pattern) → Reader (Pattern × Switches)
  | 0, _, _, _ => none
  | fuel + 1, switches, done, cs => do
    let (atom, rest) ← match cs with
      | '(' :: rest => readGroup fuel switches rest
      | '[' :: rest => do
        let (accepts, rest) ← readClass fuel switches rest
        some (Pattern.one accepts, rest)
      | '\\' :: rest => do
        let (escape, rest) ← readEscape rest
        some (escape.toPattern switches, rest)
      | '.' :: rest => some (switches.point, rest)
      | '^' :: rest => some (switches.start, rest)
      | '$' :: rest => some (switches.stop, rest)
      | c :: rest =>
        if c = '*' || c = '+' || c = '?' || c = '\x7b' then none
        else some (.one (switches.widen (· == c)), rest)
      | [] => none
    let (repeated, rest) ← readRepetitions (rest.length + 1) atom rest
    readSequence fuel switches (.sequence done repeated) rest

/-- A group, after its opening bracket. -/
def readGroup : (fuel : Nat) → Switches → Reader Pattern
  | 0, _, _ => none
  | fuel + 1, switches, cs => do
    let (inner, start) ← match cs with
      | '?' :: 'P' :: '<' :: rest => do some (switches, ← readGroupName rest)
      | '?' :: '<' :: rest => do some (switches, ← readGroupName rest)
      | '?' :: rest => do
        match ← readSwitches switches rest with
        | (changed, ':' :: rest) => some (changed, rest)
        | _ => none
      | rest => some (switches, rest)
    match ← readChoice fuel inner start with
    | (pattern, ')' :: rest) => some (pattern, rest)
    | _ => none

end

/-- The pattern that a text spells, if it spells one. -/
def ofText? (cs : List Char) : Option Pattern :=
  match readChoice (4 * (cs.length + 1)) {} cs with
  | some (pattern, []) => some pattern
  | _ => none

end PromptRelay.Text.Pattern
