import PromptRelay.Proofs.Json.Skipping

/-!
Contract: an object is read by what its members say, however it is laid out.

Owns:
- the texts that spell the members of an object, in the given order, with blanks between any
  two tokens and names that may be escaped;
- what the reader of members makes of one member: it takes it into the draft, passes over it, or
  refuses it because the draft has it already;
- that it makes of all members what it makes of one after the other.

Does not own: which members there are, and values of another kind than the wanted one.
-/

namespace PromptRelay.Json

open Text (Bytes utf8 utf8_cons utf8_append)
open Result (ok_bind)

/-! ## Texts -/

section

variable {μ : Type} (label : μ → String) (spells : μ → List Char → Prop)

/-- The texts that spell members up to the closing brace. A name is a string of characters, so
that one half of a pair alone spells none. -/
inductive ObjectText : (isFirst : Bool) → List μ → List Char → Prop where
  | closed {isFirst : Bool} {gap : List Char} (isGap : IsGap gap) :
      ObjectText isFirst [] (gap ++ ['\x7d'])
  | member {isFirst : Bool} {member : μ} {members : List μ}
      {lead name before after text tail : List Char} (leads : Lead isFirst lead)
      (named : SpellsString name (label member)) (beforeIsGap : IsGap before)
      (afterIsGap : IsGap after) (spelled : spells member text)
      (onward : ObjectText false members tail) :
      ObjectText isFirst (member :: members)
        (lead ++ (name ++ (before ++ ':' :: (after ++ (text ++ tail)))))

end

/-! ## One member -/

section

variable {fields : List (Field σ)}

/-- What becomes of a draft with a member that is spelled by a text; with `none` the member is
refused. -/
inductive MemberRead (fields : List (Field σ)) (draft : σ) (name : String) (text : List Char) :
    Option σ → Prop where
  | taken {field : Field σ} {next : σ} (known : fields.find? (·.name == name) = some field)
      (fresh : field.isSet draft = false) (passes : PassesGaps (field.read draft))
      (reads : Reads (field.read draft) text next) : MemberRead fields draft name text (some next)
  | repeated {field : Field σ} (known : fields.find? (·.name == name) = some field)
      (isSet : field.isSet draft = true) : MemberRead fields draft name text none
  | skipped (unknown : fields.find? (·.name == name) = none)
      (value : WellFormed .value text) : MemberRead fields draft name text (some draft)

/-- A member with a field of its own is taken once. -/
theorem memberRead_field {field : Field σ} {read : Reader β} (update : β → σ) {draft : σ}
    {name : String} {text : List Char} {value : β}
    (known : fields.find? (·.name == name) = some field)
    (updates : field.read draft = fun input => do
      let (value, rest) ← read input
      .ok (update value, rest))
    (passes : PassesGaps read) (reads : Reads read text value) :
    MemberRead fields draft name text
      (if field.isSet draft = true then none else some (update value)) := by
  by_cases isSet : field.isSet draft = true
  · rw [if_pos isSet]
    exact .repeated known isSet
  · have fresh : field.isSet draft = false := Bool.eq_false_iff.mpr isSet
    rw [if_neg isSet]
    refine .taken known fresh ?_ ?_
    · intro gap isGap rest
      rw [updates]
      dsimp only
      rw [passes gap isGap rest]
    · rw [updates]
      exact reads_update reads update

/-- Goes on with what there is, if nothing was refused. -/
def goOn (outcome : Option α) (onward : α → Except Fault β) : Except Fault β :=
  match outcome with
  | some value => onward value
  | none => .error .mismatched

theorem readMembers_member {isFirst : Bool} {draft : σ} {name : String}
    {lead spelling before after text : List Char} {outcome : Option σ}
    (leads : Lead isFirst lead) (named : SpellsString spelling name) (beforeIsGap : IsGap before)
    (afterIsGap : IsGap after) (read : MemberRead fields draft name text outcome) {rest : Bytes}
    (ends : Ends rest) (fuel : Nat) :
    readMembers fields (fuel + 1) isFirst draft
        (utf8 (lead ++ (spelling ++ (before ++ ':' :: (after ++ text)))) ++ rest) =
      goOn outcome fun next => readMembers fields fuel false next rest := by
  have bytes : utf8 (lead ++ (spelling ++ (before ++ ':' :: (after ++ text)))) ++ rest =
      utf8 (lead ++ (spelling ++ (before ++ [':']))) ++ (utf8 (after ++ text) ++ rest) := by
    simp only [utf8_append, utf8_cons, List.append_assoc, Text.utf8_nil, List.nil_append]
  rw [bytes, readMembers_named leads named beforeIsGap]
  cases read with
  | taken known fresh passes reads =>
      have taken := reads.after_gap passes afterIsGap rest
      simp only [known, fresh, Bool.false_eq_true, if_false, taken, ok_bind, goOn]
  | repeated known isSet => simp only [known, isSet, if_true, goOn]
  | skipped unknown value =>
      simp only [unknown, skipValue_wellFormed afterIsGap value ends, ok_bind, goOn]

/-! ## All members -/

variable {μ : Type} {label : μ → String} {spells : μ → List Char → Prop}

theorem ObjectText.ends {members : List μ} {text : List Char}
    (spelled : ObjectText label spells false members text) (rest : Bytes) :
    Ends (utf8 text ++ rest) := by
  cases spelled with
  | closed isGap =>
      rw [utf8_append, List.append_assoc]
      exact ends_mark isGap (.inr (.inr rfl)) rest
  | member leads _ _ _ _ _ =>
      rw [utf8_append, List.append_assoc]
      exact ends_later leads _

/-- By induction on the members: each of them changes the draft or ends the reading. -/
theorem readMembers_objectText {put : σ → μ → Option σ}
    (reads : ∀ draft member text, spells member text →
      MemberRead fields draft (label member) text (put draft member))
    {isFirst : Bool} {members : List μ} {text : List Char}
    (spelled : ObjectText label spells isFirst members text) (draft : σ) (rest : Bytes) (fuel : Nat)
    (enough : text.length ≤ fuel) :
    readMembers fields fuel isFirst draft (utf8 text ++ rest) =
      goOn (members.foldlM put draft) fun last => .ok (last, rest) := by
  induction spelled generalizing draft fuel with
  | closed isGap =>
      rw [List.length_append, List.length_singleton] at enough
      obtain ⟨left, rfl⟩ : ∃ left, fuel = left + 1 := ⟨fuel - 1, by omega⟩
      simp only [readMembers, nextMember_closed isGap, ok_bind]
      rfl
  | @member isFirst member members lead name before after text tail leads named beforeIsGap
      afterIsGap spelled onward inductionHypothesis =>
      simp only [List.length_append, List.length_cons] at enough
      obtain ⟨left, rfl⟩ : ∃ left, fuel = left + 1 := ⟨fuel - 1, by omega⟩
      have step := readMembers_member leads named beforeIsGap afterIsGap
        (reads draft member text spelled) (onward.ends rest) left
      have bytes : utf8 (lead ++ (name ++ (before ++ ':' :: (after ++ (text ++ tail))))) ++ rest =
          utf8 (lead ++ (name ++ (before ++ ':' :: (after ++ text)))) ++ (utf8 tail ++ rest) := by
        simp only [utf8_append, utf8_cons, List.append_assoc]
      rw [bytes, step, List.foldlM_cons]
      cases put draft member with
      | none => rfl
      | some next => exact inductionHypothesis next left (by omega)

/-- A record is read from the members of an object, and then finished. -/
theorem readRecord_objectText {record : Record σ α} {put : σ → μ → Option σ}
    (reads : ∀ draft member text, spells member text →
      MemberRead record.fields draft (label member) text (put draft member))
    {members : List μ} {text gap : List Char} (isGap : IsGap gap)
    (spelled : ObjectText label spells true members text) (rest : Bytes) :
    readRecord record (utf8 (gap ++ '\x7b' :: text) ++ rest) =
      goOn ((members.foldlM put record.draft).bind record.finish) fun value =>
        .ok (value, rest) := by
  have opened : skipSpace (utf8 (gap ++ '\x7b' :: text) ++ rest) =
      openObject :: (utf8 text ++ rest) := by
    rw [utf8_append, List.append_assoc, skipSpace_gap isGap]
    rfl
  have enough : text.length ≤ (utf8 text ++ rest).length + 1 := by
    have least := Text.length_le_length_utf8 text
    rw [List.length_append]
    omega
  have read := readMembers_objectText reads spelled record.draft rest _ enough
  have other : openObject ≠ openList := by decide
  simp only [readRecord, opened, if_neg other, if_pos, read]
  cases members.foldlM put record.draft with
  | none => rfl
  | some last => rfl

end

end PromptRelay.Json
