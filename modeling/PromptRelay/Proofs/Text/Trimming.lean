import Mathlib.Data.List.TakeWhile
import PromptRelay.Text.Blank
import PromptRelay.Text.Pieces

/-!
Contract: what trimming leaves of a text, and what precedes a mark in it.

Owns:
- that trimming leaves nothing exactly of blank text;
- that trimming takes blanks off both ends, and leaves a text without any there, which is
  the only such text;
- the part before a character, as the longest start without it.

Does not own: texts whose parts mean something.
-/

namespace PromptRelay.Text

theorem trim_eq_nil_iff (cs : List Char) : trim cs = [] ↔ ∀ c ∈ cs, isBlank c = true := by
  rw [trim, trimEnd, trimStart, List.reverse_eq_nil_iff, List.dropWhile_eq_nil_iff]
  simp only [List.mem_reverse]
  constructor
  · intro blank c member
    rw [← List.takeWhile_append_dropWhile (p := isBlank) (l := cs), List.mem_append] at member
    rcases member with dropped | kept
    · exact List.mem_takeWhile_imp dropped
    · exact blank c kept
  · intro blank c member
    exact blank c (List.dropWhile_suffix isBlank |>.mem member)

theorem trim_isEmpty_eq (text : String) : (trim text.toList).isEmpty = isBlankText text := by
  rw [Bool.eq_iff_iff, List.isEmpty_iff, trim_eq_nil_iff, isBlankText, List.all_eq_true]

/-! ## Both ends -/

/-- No blank stands at either end. -/
structure IsTrimmed (cs : List Char) : Prop where
  head : ∀ c ∈ cs.head?, isBlank c = false
  last : ∀ c ∈ cs.getLast?, isBlank c = false

theorem isTrimmed_of_noBlank {cs : List Char} (noBlank : ∀ c ∈ cs, isBlank c = false) :
    IsTrimmed cs where
  head c isHead := noBlank c (List.mem_of_head? isHead)
  last c isLast := noBlank c (List.mem_of_getLast? isLast)

theorem trimStart_append {before kept : List Char} (blank : ∀ c ∈ before, isBlank c = true)
    (head : ∀ c ∈ kept.head?, isBlank c = false) : trimStart (before ++ kept) = kept := by
  rw [trimStart, List.dropWhile_append_of_pos blank]
  cases kept with
  | nil => rfl
  | cons c rest =>
      have notBlank : ¬ isBlank c = true := by simp [head c rfl]
      exact List.dropWhile_cons_of_neg notBlank

/-- From the end, a text is trimmed as its mirror image is from the start. -/
theorem trimEnd_append {kept after : List Char} (blank : ∀ c ∈ after, isBlank c = true)
    (last : ∀ c ∈ kept.getLast?, isBlank c = false) : trimEnd (kept ++ after) = kept := by
  have mirrored : trimStart (after.reverse ++ kept.reverse) = kept.reverse := by
    apply trimStart_append
    · intro c member
      exact blank c (List.mem_reverse.mp member)
    · rw [List.head?_reverse]
      exact last
  show (trimStart (kept ++ after).reverse).reverse = kept
  rw [List.reverse_append, mirrored, List.reverse_reverse]

/-- What stands between blanks is what trimming leaves, if it has none at its ends. -/
theorem trim_append {before kept after : List Char} (beforeBlank : ∀ c ∈ before, isBlank c = true)
    (isTrimmed : IsTrimmed kept) (afterBlank : ∀ c ∈ after, isBlank c = true) :
    trim (before ++ (kept ++ after)) = kept := by
  by_cases nothing : kept = []
  · subst nothing
    rw [List.nil_append, trim_eq_nil_iff]
    intro c member
    rcases List.mem_append.mp member with early | late
    · exact beforeBlank c early
    · exact afterBlank c late
  · have head : ∀ c ∈ (kept ++ after).head?, isBlank c = false := by
      obtain ⟨c, rest, rfl⟩ := List.exists_cons_of_ne_nil nothing
      exact isTrimmed.head
    rw [trim, trimStart_append beforeBlank head, trimEnd_append afterBlank isTrimmed.last]

theorem trim_of_isTrimmed {cs : List Char} (isTrimmed : IsTrimmed cs) : trim cs = cs := by
  have nothing : ∀ c ∈ ([] : List Char), isBlank c = true := by simp
  have same := trim_append nothing isTrimmed nothing
  rwa [List.nil_append, List.append_nil] at same

theorem exists_trimStart (cs : List Char) :
    ∃ before, (∀ c ∈ before, isBlank c = true) ∧ cs = before ++ trimStart cs ∧
      ∀ c ∈ (trimStart cs).head?, isBlank c = false := by
  refine ⟨cs.takeWhile isBlank, fun c => List.mem_takeWhile_imp,
    List.takeWhile_append_dropWhile.symm, ?_⟩
  intro c member
  have stopped := List.head?_dropWhile_not isBlank cs
  rw [trimStart] at member
  rw [Option.mem_def.mp member] at stopped
  exact stopped

theorem exists_trimEnd (cs : List Char) :
    ∃ after, (∀ c ∈ after, isBlank c = true) ∧ cs = trimEnd cs ++ after ∧
      ∀ c ∈ (trimEnd cs).getLast?, isBlank c = false := by
  obtain ⟨start, blank, parted, head⟩ := exists_trimStart cs.reverse
  refine ⟨start.reverse, ?_, ?_, ?_⟩
  · intro c member
    exact blank c (List.mem_reverse.mp member)
  · show cs = (trimStart cs.reverse).reverse ++ start.reverse
    rw [← List.reverse_append, ← parted, List.reverse_reverse]
  · show ∀ c ∈ (trimStart cs.reverse).reverse.getLast?, isBlank c = false
    rw [List.getLast?_reverse]
    exact head

/-- Trimming takes blanks off both ends, as long as there are any. -/
theorem exists_trim (cs : List Char) :
    ∃ before after, (∀ c ∈ before, isBlank c = true) ∧ (∀ c ∈ after, isBlank c = true) ∧
      cs = before ++ (trim cs ++ after) ∧ IsTrimmed (trim cs) := by
  obtain ⟨before, beforeBlank, parted, head⟩ := exists_trimStart cs
  obtain ⟨after, afterBlank, closed, last⟩ := exists_trimEnd (trimStart cs)
  refine ⟨before, after, beforeBlank, afterBlank, ?_, ?_, last⟩
  · rw [trim, ← closed]
    exact parted
  · intro c member
    apply head c
    rw [closed, List.head?_append, ← trim, Option.mem_def.mp member]
    rfl

theorem isTrimmed_trim (cs : List Char) : IsTrimmed (trim cs) := by
  obtain ⟨_, _, _, _, _, isTrimmed⟩ := exists_trim cs
  exact isTrimmed

/-- The part of a text between the blanks around it, which has none at its ends. -/
structure IsCore (core text : List Char) : Prop where
  surrounded : ∃ before after, text = before ++ (core ++ after) ∧
    (∀ c ∈ before, isBlank c = true) ∧ ∀ c ∈ after, isBlank c = true
  isTrimmed : IsTrimmed core

theorem isCore_iff {core text : List Char} : IsCore core text ↔ trim text = core := by
  constructor
  · rintro ⟨⟨before, after, rfl, beforeBlank, afterBlank⟩, isTrimmed⟩
    exact trim_append beforeBlank isTrimmed afterBlank
  · rintro rfl
    obtain ⟨before, after, beforeBlank, afterBlank, parted, isTrimmed⟩ := exists_trim text
    exact ⟨⟨before, after, parted, beforeBlank, afterBlank⟩, isTrimmed⟩

theorem infix_trim (cs : List Char) : trim cs <:+: cs := by
  obtain ⟨before, after, _, _, parted, _⟩ := exists_trim cs
  exact ⟨before, after, by rw [List.append_assoc, ← parted]⟩

/-- Further blanks around a text make no difference to what trimming leaves. -/
theorem trim_surrounded {before after : List Char} (cs : List Char)
    (beforeBlank : ∀ c ∈ before, isBlank c = true) (afterBlank : ∀ c ∈ after, isBlank c = true) :
    trim (before ++ (cs ++ after)) = trim cs := by
  obtain ⟨start, rest, startBlank, restBlank, parted, isTrimmed⟩ := exists_trim cs
  have regrouped : before ++ (cs ++ after) = (before ++ start) ++ (trim cs ++ (rest ++ after)) :=
    calc
      _ = before ++ ((start ++ (trim cs ++ rest)) ++ after) := by rw [← parted]
      _ = _ := by simp only [List.append_assoc]
  rw [regrouped]
  apply trim_append
  · intro c member
    exact (List.mem_append.mp member).elim (beforeBlank c) (startBlank c)
  · exact isTrimmed
  · intro c member
    exact (List.mem_append.mp member).elim (restBlank c) (afterBlank c)

/-- Blanks at the end make no difference, and neither does it to take off those at the end
first. -/
theorem trimEnd_append_blank {after : List Char} (cs : List Char)
    (blank : ∀ c ∈ after, isBlank c = true) : trimEnd (cs ++ after) = trimEnd cs := by
  have mirrored : ∀ c ∈ after.reverse, isBlank c = true := by
    intro c member
    exact blank c (List.mem_reverse.mp member)
  rw [trimEnd, List.reverse_append, List.dropWhile_append_of_pos mirrored, trimEnd]

theorem trim_trimEnd (cs : List Char) : trim (trimEnd cs) = trim cs := by
  obtain ⟨after, blank, parted, _⟩ := exists_trimEnd cs
  have nothing : ∀ c ∈ ([] : List Char), isBlank c = true := by simp
  have same := trim_surrounded (trimEnd cs) nothing blank
  rw [List.nil_append, ← parted] at same
  exact same.symm

/-- Behind a start that is trimmed, only the end of a text is left to trim. -/
theorem trim_behind {before front : List Char} (rest : List Char)
    (blank : ∀ c ∈ before, isBlank c = true) (isTrimmed : IsTrimmed front)
    (isNonempty : front ≠ []) : trim (before ++ (front ++ rest)) = front ++ trimEnd rest := by
  obtain ⟨after, afterBlank, parted, last⟩ := exists_trimEnd rest
  have edges : IsTrimmed (front ++ trimEnd rest) := by
    constructor
    · obtain ⟨c, others, rfl⟩ := List.exists_cons_of_ne_nil isNonempty
      exact isTrimmed.head
    · rw [List.getLast?_append]
      cases kept : (trimEnd rest).getLast? with
      | none => exact isTrimmed.last
      | some c =>
          rw [kept] at last
          exact last
  have regrouped : before ++ (front ++ rest) = before ++ ((front ++ trimEnd rest) ++ after) :=
    calc
      _ = before ++ (front ++ (trimEnd rest ++ after)) := by rw [← parted]
      _ = _ := by rw [List.append_assoc]
  rw [regrouped, trim_append blank edges afterBlank]

/-! ## Parts -/

theorem before?_eq (c : Char) (cs : List Char) :
    before? c cs = if c ∈ cs then some (cs.takeWhile (· ≠ c)) else none := by
  induction cs with
  | nil => rfl
  | cons d rest inductionHypothesis =>
      rw [before?]
      by_cases same : d = c
      · rw [if_pos same, if_pos (by simp [same]), List.takeWhile_cons_of_neg (by simp [same])]
      · rw [if_neg same, inductionHypothesis, List.takeWhile_cons_of_pos (by simp [same])]
        have sameMember : c ∈ d :: rest ↔ c ∈ rest := by
          rw [List.mem_cons, or_iff_right (Ne.symm same)]
        by_cases member : c ∈ rest
        · rw [if_pos member, if_pos (sameMember.mpr member)]
          rfl
        · rw [if_neg member, if_neg (member ∘ sameMember.mp)]
          rfl

end PromptRelay.Text
