import Mathlib.Data.List.TakeWhile
import PromptRelay.Proofs.Json.Shapes

/-!
Contract: a text that is cut short is refused for that and for nothing else.

Owns:
- readers whose findings on the start of a text are not undone by what comes after it;
- that strings, choices and optional strings are read by such readers;
- that such a reader finds a text truncated that was cut anywhere before its end, and that
  the reader of a record does so if the readers of its members do.

Does not own: numbers, which may go on behind any of their digits, and with them the values
of unknown members.

What a reader finds on the start of a text is either final, in which case it finds the same on
the whole, or it is that the text is truncated. A text that can be read to its end, and not
before, is therefore truncated wherever it is cut.
-/

namespace PromptRelay.Json

open Text (Bytes utf8 utf8_cons utf8_append)
open Result (ok_bind error_bind)

/-! ## Final findings -/

/-- What is found on the start of a text, and on the whole: a value is found on both, with the
rest extended, and a fault other than the end of the text on the whole as well. -/
def Extends (extend : α → α) (short long : Except Fault α) : Prop :=
  match short with
  | .ok value => long = .ok (extend value)
  | .error .truncated => True
  | .error _ => ∃ fault, long = .error fault

/-- A value and the rest of the text, with more behind that. -/
def andMore (more : Bytes) (found : α × Bytes) : α × Bytes :=
  (found.1, found.2 ++ more)

/-- A reader whose findings on the start of a text are final. -/
def IsFirm (read : Reader α) : Prop :=
  ∀ start more, Extends (andMore more) (read start) (read (start ++ more))

namespace Extends

variable {extend : α → α}

theorem ok {value : α} {long : Except Fault α} (same : long = .ok (extend value)) :
    Extends extend (.ok value) long := same

theorem truncated (long : Except Fault α) : Extends extend (.error .truncated) long := trivial

theorem error (first second : Fault) : Extends extend (.error first) (.error second) := by
  cases first with
  | truncated => exact trivial
  | malformed => exact ⟨second, rfl⟩
  | mismatched => exact ⟨second, rfl⟩

/-- What follows on a value has to be final as well. -/
theorem bind {extendLast : β → β} {short long : Except Fault α}
    {next nextLong : α → Except Fault β} (first : Extends extend short long)
    (onward : ∀ value, Extends extendLast (next value) (nextLong (extend value))) :
    Extends extendLast (short >>= next) (long >>= nextLong) := by
  cases short with
  | ok value =>
      have same : long = .ok (extend value) := first
      rw [same, ok_bind, ok_bind]
      exact onward value
  | error fault =>
      cases fault with
      | truncated => exact .truncated _
      | malformed =>
          obtain ⟨other, same⟩ := first
          rw [same]
          exact .error _ _
      | mismatched =>
          obtain ⟨other, same⟩ := first
          rw [same]
          exact .error _ _

end Extends

/-! ## Tokens -/

theorem expect_extends (expected start more : Bytes) :
    Extends (· ++ more) (expect expected start) (expect expected (start ++ more)) := by
  induction expected generalizing start with
  | nil => exact .ok rfl
  | cons byte expected inductionHypothesis =>
      cases start with
      | nil => exact .truncated _
      | cons found start =>
          rw [List.cons_append, expect, expect]
          by_cases same : byte = found
          · rw [if_pos same, if_pos same]
            exact inductionHypothesis start
          · rw [if_neg same, if_neg same]
            exact .error _ _

theorem readUnit_isFirm : IsFirm readUnit := by
  intro start more
  match start with
  | [] | [_] | [_, _] | [_, _, _] => exact .truncated _
  | a :: b :: c :: d :: rest =>
      rw [List.cons_append, List.cons_append, List.cons_append, List.cons_append, readUnit,
        readUnit]
      split
      · exact .ok rfl
      · exact .error _ _

theorem readUnicodeEscape_isFirm : IsFirm readUnicodeEscape := by
  intro start more
  refine (readUnit_isFirm start more).bind ?_
  rintro ⟨unit, rest⟩
  show Extends _ (if _ then _ else if _ then _ else _) (if _ then _ else if _ then _ else _)
  split
  · exact .error _ _
  · split
    · exact .ok rfl
    · refine (expect_extends _ rest more).bind fun rest => ?_
      refine (readUnit_isFirm rest more).bind ?_
      rintro ⟨low, rest⟩
      dsimp only [andMore]
      split
      · exact .error _ _
      · simp only [Extends, andMore]

theorem readEscape_isFirm : IsFirm readEscape := by
  intro start more
  cases start with
  | nil => exact .truncated _
  | cons letter rest =>
      rw [List.cons_append, readEscape, readEscape]
      by_cases isUnicode : letter = letterU
      · rw [if_pos isUnicode, if_pos isUnicode]
        refine (readUnicodeEscape_isFirm rest more).bind ?_
        rintro ⟨c, rest⟩
        exact .ok rfl
      · rw [if_neg isUnicode, if_neg isUnicode]
        split
        · exact .ok rfl
        · exact .error _ _

/-- By induction on the fuel, of which the whole text may be given more. -/
theorem readContent_extends (fuel spare : Nat) (start more : Bytes) :
    Extends (andMore more) (readContent fuel start)
      (readContent (fuel + spare) (start ++ more)) := by
  induction fuel generalizing start with
  | zero => exact .truncated _
  | succ fuel inductionHypothesis =>
      cases start with
      | nil => exact .truncated _
      | cons byte rest =>
          rw [Nat.succ_add, List.cons_append, readContent, readContent]
          by_cases closes : byte = quote
          · rw [if_pos closes, if_pos closes]
            exact .ok rfl
          · rw [if_neg closes, if_neg closes]
            by_cases escapes : byte = backslash
            · rw [if_pos escapes, if_pos escapes]
              refine (readEscape_isFirm rest more).bind ?_
              rintro ⟨escaped, rest⟩
              refine (inductionHypothesis rest).bind ?_
              rintro ⟨content, rest⟩
              exact .ok rfl
            · rw [if_neg escapes, if_neg escapes]
              by_cases control : byte < 0x20
              · rw [if_pos control, if_pos control]
                exact .error _ _
              · rw [if_neg control, if_neg control]
                refine (inductionHypothesis rest).bind ?_
                rintro ⟨content, rest⟩
                exact .ok rfl

theorem readQuoted_isFirm : IsFirm readQuoted := by
  intro start more
  have content := readContent_extends (start.length + 1) more.length start more
  have enough : start.length + 1 + more.length = (start ++ more).length + 1 := by
    rw [List.length_append]
    omega
  rw [enough] at content
  refine content.bind ?_
  rintro ⟨content, rest⟩
  dsimp only [andMore]
  split
  · exact .ok rfl
  · exact .error _ _

/-! ## Values -/

/-- Blanks are passed over alike, and behind them there is either a byte or the end. -/
theorem skipSpace_append_cases (start more : Bytes) :
    skipSpace start = [] ∨ ∃ byte rest,
      skipSpace start = byte :: rest ∧ skipSpace (start ++ more) = byte :: (rest ++ more) := by
  induction start with
  | nil => exact .inl rfl
  | cons byte rest inductionHypothesis =>
      by_cases isBlank : isSpace byte = true
      · rw [List.cons_append, skipSpace, skipSpace, List.dropWhile_cons_of_pos isBlank,
          List.dropWhile_cons_of_pos isBlank]
        exact inductionHypothesis
      · right
        refine ⟨byte, rest, ?_, ?_⟩
        · exact List.dropWhile_cons_of_neg isBlank
        · exact List.dropWhile_cons_of_neg isBlank

theorem readString_isFirm : IsFirm readString := by
  intro start more
  unfold readString
  rcases skipSpace_append_cases start more with none | ⟨byte, rest, found, extended⟩
  · rw [none]
    exact .truncated _
  · rw [found, extended]
    dsimp only
    by_cases opens : byte = quote
    · rw [if_pos opens, if_pos opens]
      exact readQuoted_isFirm rest more
    · rw [if_neg opens, if_neg opens]
      exact .error _ _

theorem readMark_extends (mark : UInt8) (start more : Bytes) :
    Extends (· ++ more) (readMark mark start) (readMark mark (start ++ more)) := by
  unfold readMark
  rcases skipSpace_append_cases start more with none | ⟨byte, rest, found, extended⟩
  · rw [none]
    exact .truncated _
  · rw [found, extended]
    dsimp only
    split
    · exact .ok rfl
    · exact .error _ _

theorem readNull_extends (start more : Bytes) :
    Extends (· ++ more) (readNull start) (readNull (start ++ more)) := by
  unfold readNull
  rcases skipSpace_append_cases start more with none | ⟨byte, rest, found, extended⟩
  · rw [none]
    exact .truncated _
  · rw [found, extended]
    dsimp only
    split
    · exact expect_extends _ rest more
    · exact .error _ _

theorem readOptional_isFirm {read : Reader α} (isFirm : IsFirm read) :
    IsFirm (readOptional read) := by
  intro start more
  unfold readOptional
  rcases skipSpace_append_cases start more with none | ⟨byte, rest, found, extended⟩
  · rw [none]
    exact .truncated _
  · rw [found, extended]
    dsimp only
    split
    · refine (expect_extends _ rest more).bind fun rest => ?_
      exact .ok rfl
    · refine (isFirm (byte :: rest) more).bind ?_
      rintro ⟨value, rest⟩
      exact .ok rfl

theorem readChoice_isFirm (choices : List (String × α)) : IsFirm (readChoice choices) := by
  intro start more
  unfold readChoice
  rcases skipSpace_append_cases start more with none | ⟨byte, rest, found, extended⟩
  · rw [none]
    exact .truncated _
  · rw [found, extended]
    dsimp only
    split
    · refine (readQuoted_isFirm rest more).bind ?_
      rintro ⟨name, rest⟩
      dsimp only [andMore]
      split
      · exact .ok rfl
      · exact .error _ _
    · split
      · refine (readString_isFirm rest more).bind ?_
        rintro ⟨name, rest⟩
        dsimp only [andMore]
        split
        · refine (readMark_extends colon rest more).bind fun rest => ?_
          refine (readNull_extends rest more).bind fun rest => ?_
          refine (readMark_extends closeObject rest more).bind fun rest => ?_
          exact .ok rfl
        · exact .error _ _
      · exact .error _ _

theorem update_isFirm {read : Reader α} (isFirm : IsFirm read) (update : α → σ) :
    IsFirm (fun input => do let (value, rest) ← read input; .ok (update value, rest)) := by
  intro start more
  refine (isFirm start more).bind ?_
  rintro ⟨value, rest⟩
  exact .ok rfl

/-! ## Cuts -/

/-- The start of a text that has more. -/
def IsCut (start whole : Bytes) : Prop :=
  ∃ more, more ≠ [] ∧ whole = start ++ more

/-- A text of two parts is cut within the first or behind it. -/
theorem IsCut.of_append {start first second : Bytes} (cut : IsCut start (first ++ second)) :
    IsCut start first ∨ ∃ onward, start = first ++ onward ∧ IsCut onward second := by
  obtain ⟨more, isNonempty, parted⟩ := cut
  rcases List.append_eq_append_iff.mp parted with ⟨between, same, rest⟩ | ⟨between, same, rest⟩
  · exact .inr ⟨between, same, more, isNonempty, rest⟩
  · by_cases nothing : between = []
    · subst nothing
      rw [List.append_nil] at same
      refine .inr ⟨[], by rw [same, List.append_nil], more, isNonempty, ?_⟩
      rw [rest]
      rfl
    · exact .inl ⟨between, nothing, same⟩

/-- A text that is read to its end is truncated wherever it is cut. -/
theorem IsFirm.cut {read : Reader α} (isFirm : IsFirm read) {written : List Char} {value : α}
    (reads : Reads read written value) {start : Bytes} (cut : IsCut start (utf8 written)) :
    read start = .error .truncated := by
  obtain ⟨more, isNonempty, parted⟩ := cut
  have whole := reads []
  have final := isFirm start more
  rw [List.append_nil, parted] at whole
  rw [whole] at final
  cases found : read start with
  | ok result =>
      rw [found] at final
      have rest : [] = result.2 ++ more := (Prod.mk.inj (Except.ok.inj final)).2
      exact absurd (List.append_eq_nil_iff.mp rest.symm).2 isNonempty
  | error fault =>
      rw [found] at final
      cases fault with
      | truncated => rfl
      | malformed =>
          obtain ⟨_, failed⟩ := final
          cases failed
      | mismatched =>
          obtain ⟨_, failed⟩ := final
          cases failed

/-! ## Objects -/

theorem IsCut.cons_cases {start : Bytes} {byte : UInt8} {whole : Bytes}
    (cut : IsCut start (byte :: whole)) :
    start = [] ∨ ∃ onward, start = byte :: onward ∧ IsCut onward whole := by
  have parted : IsCut start ([byte] ++ whole) := cut
  rcases parted.of_append with inside | behind
  · left
    obtain ⟨more, isNonempty, parted⟩ := inside
    have lengths := congrArg List.length parted
    rw [List.length_append, List.length_singleton] at lengths
    have positive := List.length_pos_iff.mpr isNonempty
    exact List.length_eq_zero_iff.mp (by omega)
  · exact .inr behind

/-- There is nothing but blanks up to the byte behind them. -/
theorem skipSpace_of_cut {gap : List Char} (isGap : IsGap gap) {byte : UInt8} {start : Bytes}
    (cut : IsCut start (utf8 gap ++ [byte])) : skipSpace start = [] := by
  have passed : skipSpace (utf8 gap) = [] := by
    have passes := skipSpace_gap isGap []
    rwa [List.append_nil] at passes
  have blank : ∀ other ∈ utf8 gap, isSpace other = true := List.dropWhile_eq_nil_iff.mp passed
  apply List.dropWhile_eq_nil_iff.mpr
  intro other member
  rcases cut.of_append with ⟨more, _, parted⟩ | ⟨onward, rfl, behind⟩
  · exact blank other (by simp [parted, member])
  · rcases behind.cons_cases with rfl | ⟨_, _, _, isNonempty, parted⟩
    · exact blank other (by simpa using member)
    · exact absurd (List.append_eq_nil_iff.mp parted.symm).2 isNonempty

theorem readMark_cut {gap : List Char} (isGap : IsGap gap) {start : Bytes}
    (cut : IsCut start (utf8 gap ++ [colon])) : readMark colon start = .error .truncated := by
  rw [readMark, skipSpace_of_cut isGap cut]

theorem nextMember_closed_cut {gap : List Char} (isGap : IsGap gap) (isFirst : Bool)
    {start : Bytes} (cut : IsCut start (utf8 gap ++ [closeObject])) :
    nextMember isFirst start = .error .truncated := by
  rw [nextMember, skipSpace_of_cut isGap cut]

theorem nextMember_cut {isFirst : Bool} {lead : List Char} (leads : Lead isFirst lead)
    {start : Bytes} (cut : IsCut start (utf8 lead ++ [quote])) :
    nextMember isFirst start = .error .truncated := by
  cases leads with
  | first isGap => rw [nextMember, skipSpace_of_cut isGap cut]
  | @later before after beforeIsGap afterIsGap =>
      have parted : utf8 (before ++ ',' :: after) ++ [quote] =
          (utf8 before ++ [comma]) ++ (utf8 after ++ [quote]) := by
        simp only [utf8_append, utf8_cons, List.append_assoc]
        rfl
      rw [parted] at cut
      rcases cut.of_append with inside | ⟨onward, rfl, behind⟩
      · rw [nextMember, skipSpace_of_cut beforeIsGap inside]
      · have found : skipSpace (utf8 before ++ [comma] ++ onward) = comma :: onward := by
          rw [List.append_assoc, skipSpace_gap beforeIsGap]
          rfl
        simp only [nextMember, found, skipSpace_of_cut afterIsGap behind]
        rfl

section

variable {fields : List (Field σ)}

/-- By induction on the members: a cut lies before the name of the first, in the name, before
the colon, in the value, or among the others. -/
theorem readMembers_cut {isFirst : Bool} {draft last : σ} {text : List Char}
    (spelled : Members fields isFirst draft text last)
    (firm : ∀ field ∈ fields, ∀ draft, IsFirm (field.read draft)) (fuel : Nat) {start : Bytes}
    (cut : IsCut start (utf8 text)) :
    readMembers fields fuel isFirst draft start = .error .truncated := by
  induction spelled generalizing fuel start with
  | @closed isFirst draft gap isGap =>
      cases fuel with
      | zero => rfl
      | succ fuel =>
          rw [utf8_append] at cut
          rw [readMembers, nextMember_closed_cut isGap isFirst cut]
          rfl
  | @member isFirst draft next last lead gap value tail name field leads isGap known fresh reads
      onward inductionHypothesis =>
      cases fuel with
      | zero => rfl
      | succ fuel =>
          have parted : utf8 (lead ++ (quoted name ++ (gap ++ ':' :: (value ++ tail)))) =
              (utf8 lead ++ [quote]) ++ (utf8 (name.toList.flatMap escape ++ ['"']) ++
                ((utf8 gap ++ [colon]) ++ (utf8 value ++ utf8 tail))) := by
            simp only [utf8_append, List.append_assoc, quoted, utf8_cons]
            rfl
          rw [parted] at cut
          rw [readMembers]
          rcases cut.of_append with inLead | ⟨named, rfl, nameCut⟩
          · rw [nextMember_cut leads inLead]
            rfl
          rw [List.append_assoc, List.singleton_append, nextMember_lead leads named, ok_bind]
          dsimp only
          rcases nameCut.of_append with inName | ⟨marked, rfl, markCut⟩
          · rw [readQuoted_isFirm.cut (readQuoted_escaped name) inName]
            rfl
          rw [readQuoted_escaped, ok_bind]
          simp only [known, fresh, Bool.false_eq_true, if_false]
          rcases markCut.of_append with inMark | ⟨valued, rfl, valueCut⟩
          · rw [readMark_cut isGap inMark]
            rfl
          rw [List.append_assoc, List.singleton_append, readMark_gap isGap, ok_bind]
          rcases valueCut.of_append with inValue | ⟨others, rfl, tailCut⟩
          · have isFirm := firm field (List.mem_of_find?_eq_some known) draft
            rw [isFirm.cut reads inValue]
            rfl
          rw [reads, ok_bind]
          exact inductionHypothesis fuel tailCut

/-- The object of a record is truncated wherever it is cut. -/
theorem readRecord_cut {record : Record σ α} {text : List Char} {last : σ}
    (spelled : Members record.fields true record.draft text last)
    (firm : ∀ field ∈ record.fields, ∀ draft, IsFirm (field.read draft)) {start : Bytes}
    (cut : IsCut start (utf8 ('\x7b' :: text))) :
    readRecord record start = .error .truncated := by
  have opened : utf8 ('\x7b' :: text) = openObject :: utf8 text := rfl
  rw [opened] at cut
  rcases cut.cons_cases with rfl | ⟨onward, rfl, memberCut⟩
  · rfl
  · have found : skipSpace (openObject :: onward) = openObject :: onward := rfl
    have other : openObject ≠ openList := by decide
    simp only [readRecord, found, if_neg other, if_pos, readMembers_cut spelled firm _ memberCut,
      error_bind]

end

end PromptRelay.Json
