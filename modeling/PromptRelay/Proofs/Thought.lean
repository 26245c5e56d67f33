import PromptRelay.Interpretation
import PromptRelay.Proofs.Text.Trimming

/-!
Contract: dropping the thought that a completion may open with.

Owns:
- what follows the last occurrence of a tag in a text;
- that an answer has no blanks around it and is not changed by being stripped again;
- that the answer behind a thought does not depend on what is thought.

Does not own: what an answer means for a batch.

The last occurrence of a tag is told from the others by what follows it. A tag begins
with a character that it has nowhere else, so that no other occurrence of it can begin
inside of one.
-/

namespace PromptRelay

namespace Text

/-! ## Last occurrences -/

theorem after?_eq_some_iff {start cs rest : List Char} :
    after? start cs = some rest ↔ cs = start ++ rest := by
  induction start generalizing cs with
  | nil => simp [after?, eq_comm]
  | cons a start inductionHypothesis =>
      cases cs with
      | nil => simp [after?]
      | cons c cs =>
          rw [after?]
          by_cases same : a = c
          · rw [if_pos same, inductionHypothesis, same, List.cons_append, List.cons.injEq]
            simp
          · rw [if_neg same, List.cons_append, List.cons.injEq]
            simp [Ne.symm same]

/-- A tag has no last occurrence only where it does not occur. -/
theorem afterLast?_eq_none_iff {mark cs : List Char} :
    afterLast? mark cs = none ↔ ¬ mark <:+: cs := by
  have here : ∀ text, after? mark text = none ↔ ¬ mark <+: text := by
    intro text
    rw [Option.eq_none_iff_forall_ne_some]
    constructor
    · rintro none ⟨rest, parted⟩
      exact none rest (after?_eq_some_iff.mpr parted.symm)
    · intro absent rest found
      exact absent ⟨rest, (after?_eq_some_iff.mp found).symm⟩
  induction cs with
  | nil => rw [afterLast?, here, List.prefix_nil, List.infix_nil]
  | cons c cs inductionHypothesis =>
      rw [afterLast?, List.infix_cons_iff, not_or, ← here]
      cases later : afterLast? mark cs with
      | none => simp [inductionHypothesis.mp later]
      | some answer =>
          have occurs : ¬ ¬ mark <:+: cs := by
            intro absent
            have none := inductionHypothesis.mpr absent
            rw [later] at none
            cases none
          simp [occurs]

/-- What follows the last occurrence of a tag is the end of the text, and the tag does not
occur in it. -/
theorem afterLast?_eq_some {mark cs answer : List Char} (isNonempty : mark ≠ [])
    (found : afterLast? mark cs = some answer) :
    mark ++ answer <:+ cs ∧ ¬ mark <:+: answer := by
  obtain ⟨first, others, rfl⟩ := List.exists_cons_of_ne_nil isNonempty
  induction cs with
  | nil =>
      have parted := after?_eq_some_iff.mp found
      cases parted
  | cons c cs inductionHypothesis =>
      rw [afterLast?] at found
      cases later : afterLast? (first :: others) cs with
      | some other =>
          rw [later] at found
          cases found
          obtain ⟨isEnd, absent⟩ := inductionHypothesis later
          exact ⟨isEnd.trans (List.suffix_cons c cs), absent⟩
      | none =>
          rw [later] at found
          have parted := after?_eq_some_iff.mp found
          have absent := afterLast?_eq_none_iff.mp later
          have shorter : cs = others ++ answer := (List.cons.inj parted).2
          rw [shorter] at absent ⊢
          refine ⟨?_, fun occurs => ?_⟩
          · rw [(List.cons.inj parted).1]
            exact List.suffix_rfl
          · exact absent (occurs.trans (List.suffix_append others answer).isInfix)

/-- A tag whose first character it has nowhere else does not occur where it has begun
already. -/
theorem infix_append_iff_of_notMem {first : Char} {others : List Char} (distinct : first ∉ others)
    (tail rest : List Char) (within : tail ⊆ others) :
    first :: others <:+: tail ++ rest ↔ first :: others <:+: rest := by
  induction tail with
  | nil => rfl
  | cons c tail inductionHypothesis =>
      have onward := inductionHypothesis fun _ member => within (List.mem_cons_of_mem c member)
      have other : first ≠ c := by
        rintro rfl
        exact distinct (within List.mem_cons_self)
      rw [List.cons_append, List.infix_cons_iff, onward, List.cons_prefix_cons]
      simp [other]

/-- Whatever precedes it, an occurrence of such a tag is the last one if there is none in
what follows. -/
theorem afterLast?_append {first : Char} {others answer : List Char} (distinct : first ∉ others)
    (absent : ¬ first :: others <:+: answer) (before : List Char) :
    afterLast? (first :: others) (before ++ (first :: others ++ answer)) = some answer := by
  induction before with
  | nil =>
      have notInside : ¬ first :: others <:+: others ++ answer := by
        rwa [infix_append_iff_of_notMem distinct others answer (List.Subset.refl others)]
      rw [List.nil_append, List.cons_append, afterLast?, afterLast?_eq_none_iff.mpr notInside]
      exact after?_eq_some_iff.mpr rfl
  | cons c before inductionHypothesis =>
      rw [List.cons_append, afterLast?, inductionHypothesis]

end Text

open Text

/-! ## Answers -/

/-- A text that opens with a thought which is closed. -/
def HasThought (cs : List Char) : Prop :=
  thoughtOpen <+: cs ∧ thoughtClose <:+: cs

theorem answerChars_of_not_hasThought {cs : List Char} (without : ¬ HasThought (trim cs)) :
    answerChars cs = trim cs := by
  unfold answerChars
  by_cases opens : thoughtOpen <+: trim cs
  · have unclosed : afterLast? thoughtClose (trim cs) = none :=
      afterLast?_eq_none_iff.mpr fun closed => without ⟨opens, closed⟩
    rw [if_pos (List.isPrefixOf_iff_prefix.mpr opens), unclosed]
  · rw [if_neg (by rwa [List.isPrefixOf_iff_prefix])]

theorem answerChars_of_afterLast? {cs answer : List Char} (opens : thoughtOpen <+: trim cs)
    (closed : afterLast? thoughtClose (trim cs) = some answer) : answerChars cs = trim answer := by
  unfold answerChars
  rw [if_pos (List.isPrefixOf_iff_prefix.mpr opens), closed]

/-- A text is trimmed only, or what follows its last closing tag is. -/
theorem answerChars_cases (cs : List Char) :
    (answerChars cs = trim cs ∧ ¬ HasThought (trim cs)) ∨
      ∃ answer, thoughtClose ++ answer <:+ trim cs ∧ ¬ thoughtClose <:+: answer ∧
        answerChars cs = trim answer := by
  by_cases thinks : HasThought (trim cs)
  · right
    cases found : afterLast? thoughtClose (trim cs) with
    | none => exact absurd thinks.2 (afterLast?_eq_none_iff.mp found)
    | some answer =>
        obtain ⟨isEnd, absent⟩ := afterLast?_eq_some (by decide) found
        exact ⟨answer, isEnd, absent, answerChars_of_afterLast? thinks.1 found⟩
  · exact .inl ⟨answerChars_of_not_hasThought thinks, thinks⟩

theorem infix_answerChars (cs : List Char) : answerChars cs <:+: cs := by
  rcases answerChars_cases cs with ⟨trimmed, _⟩ | ⟨answer, isEnd, _, stripped⟩
  · rw [trimmed]
    exact infix_trim cs
  · rw [stripped]
    have isPart : answer <:+: trim cs := ((List.suffix_append _ _).trans isEnd).isInfix
    exact (infix_trim answer).trans (isPart.trans (infix_trim cs))

theorem isTrimmed_answerChars (cs : List Char) : IsTrimmed (answerChars cs) := by
  rcases answerChars_cases cs with ⟨trimmed, _⟩ | ⟨answer, _, _, stripped⟩
  · rw [trimmed]
    exact isTrimmed_trim cs
  · rw [stripped]
    exact isTrimmed_trim answer

theorem not_hasThought_answerChars (cs : List Char) : ¬ HasThought (answerChars cs) := by
  rcases answerChars_cases cs with ⟨trimmed, without⟩ | ⟨answer, _, absent, stripped⟩
  · rwa [trimmed]
  · rw [stripped]
    intro thinks
    exact absent (thinks.2.trans (infix_trim answer))

/-- An answer is left as it is. -/
theorem answerChars_answerChars (cs : List Char) :
    answerChars (answerChars cs) = answerChars cs := by
  have trimmed := trim_of_isTrimmed (isTrimmed_answerChars cs)
  rw [answerChars_of_not_hasThought]
  · exact trimmed
  · rw [trimmed]
    exact not_hasThought_answerChars cs

/-- Behind a thought, only the answer is left, whatever is thought and whichever blanks there
are around both. -/
theorem answerChars_thought {before answer after : List Char} (thought : List Char)
    (beforeBlank : ∀ c ∈ before, isBlank c = true) (afterBlank : ∀ c ∈ after, isBlank c = true)
    (absent : ¬ thoughtClose <:+: answer) :
    answerChars (before ++ (thoughtOpen ++ (thought ++ (thoughtClose ++ (answer ++ after))))) =
      trim answer := by
  have edges : IsTrimmed (thoughtOpen ++ (thought ++ thoughtClose)) := by
    constructor
    · show ∀ c ∈ some '<', isBlank c = false
      simp [isBlank]
    · rw [← List.append_assoc, List.getLast?_append]
      show ∀ c ∈ some '>', isBlank c = false
      simp [isBlank]
  have kept := trim_behind (answer ++ after) beforeBlank edges (List.cons_ne_nil '<' _)
  simp only [List.append_assoc, trimEnd_append_blank answer afterBlank] at kept
  have remains : ¬ thoughtClose <:+: trimEnd answer := by
    intro occurs
    obtain ⟨_, _, parted, _⟩ := exists_trimEnd answer
    exact absent (occurs.trans ⟨[], _, parted.symm⟩)
  have closed : afterLast? thoughtClose (trim (before ++ (thoughtOpen ++ (thought ++
      (thoughtClose ++ (answer ++ after)))))) = some (trimEnd answer) := by
    rw [kept, ← List.append_assoc]
    exact afterLast?_append (by decide) remains (thoughtOpen ++ thought)
  rw [answerChars_of_afterLast? _ closed, trim_trimEnd]
  rw [kept]
  exact List.prefix_append _ _

/-! ## Summary -/

/-- What is left of a completion is a part of it without blanks at its ends, is left as it is
when stripped again, and does not open with a thought that is closed. Behind a thought, this
is the trimmed answer, whatever is thought and however many tags that has, as long as the
answer has no closing tag; and a completion that opens with no thought is trimmed only. -/
theorem stripThought_law :
    (∀ content : String,
      (∃ before after, content = before ++ stripThought content ++ after) ∧
      IsTrimmed (stripThought content).toList ∧
      stripThought (stripThought content) = stripThought content ∧
      ¬ HasThought (stripThought content).toList) ∧
    (∀ before thought answer after : String,
      isBlankText before = true → isBlankText after = true →
      ¬ thoughtClose <:+: answer.toList →
      stripThought (before ++ "<thought>" ++ thought ++ "</thought>" ++ answer ++ after) =
          trimmed answer ∧
        stripThought answer = trimmed answer) ∧
    ∀ content : String, ¬ thoughtOpen <+: (trimmed content).toList →
      stripThought content = trimmed content := by
  refine ⟨fun content => ⟨?_, ?_, ?_, ?_⟩, ?_, ?_⟩
  · obtain ⟨before, after, parted⟩ := infix_answerChars content.toList
    refine ⟨String.ofList before, String.ofList after, ?_⟩
    rw [stripThought, ← String.ofList_append, ← String.ofList_append, parted, String.ofList_toList]
  · rw [stripThought, String.toList_ofList]
    exact isTrimmed_answerChars content.toList
  · simp only [stripThought, String.toList_ofList, answerChars_answerChars]
  · rw [stripThought, String.toList_ofList]
    exact not_hasThought_answerChars content.toList
  · intro before thought answer after beforeBlank afterBlank absent
    rw [isBlankText, List.all_eq_true] at beforeBlank afterBlank
    constructor
    · have stripped := answerChars_thought thought.toList beforeBlank afterBlank absent
      simp only [stripThought, trimmed, String.toList_append, List.append_assoc]
      exact congrArg String.ofList stripped
    · have without : ¬ HasThought (trim answer.toList) := by
        intro thinks
        exact absent (thinks.2.trans (infix_trim answer.toList))
      rw [stripThought, answerChars_of_not_hasThought without, trimmed]
  · intro content notOpen
    rw [trimmed, String.toList_ofList] at notOpen
    have without : ¬ HasThought (trim content.toList) := fun thinks => notOpen thinks.1
    rw [stripThought, answerChars_of_not_hasThought without, trimmed]

/-- Two thoughts go up to the end of the second, and a tag that opens a third one, which is
never closed, belongs to the answer. A tag that does not come first opens no thought. -/
theorem stripThought_twoThoughts :
    isBlankText "\n " = true ∧ isBlankText "\u2003" = true ∧
      ¬ thoughtClose <:+: " +2 <thought>".toList ∧
      stripThought ("\n " ++ "<thought>" ++ "1</thought> or <thought>3?" ++ "</thought>" ++
        " +2 <thought>" ++ "\u2003") = trimmed " +2 <thought>" ∧
      ¬ thoughtOpen <+: (trimmed " 2<thought></thought>").toList ∧
      stripThought " 2<thought></thought>" = trimmed " 2<thought></thought>" := by
  have before : isBlankText "\n " = true := by decide +kernel
  have after : isBlankText "\u2003" = true := by decide +kernel
  have absent : ¬ thoughtClose <:+: " +2 <thought>".toList := by decide +kernel
  have notOpen : ¬ thoughtOpen <+: (trimmed " 2<thought></thought>").toList := by decide +kernel
  obtain ⟨_, behind, plain⟩ := stripThought_law
  exact ⟨before, after, absent, (behind _ _ _ _ before after absent).1, notOpen, plain _ notOpen⟩

end PromptRelay
