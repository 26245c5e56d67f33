import PromptRelay.Proofs.Text.Trimming

/-!
Contract: the lines of a text, and what trimming the text does to them.

Owns:
- the first line of a text and the lines behind it;
- that trimming a text takes blank lines off both ends of its lines and leaves the others
  the same, up to blanks around each;
- how many lines it takes off at the start.

Does not own: what lines say.

A text without line feeds is a line or nothing, and any other is a line, a line feed and a
text, so that all inductions here are on the length of the text.
-/

namespace PromptRelay.Text

/-- The line without the carriage return at its end, if there is one. -/
def withoutReturn (line : List Char) : List Char :=
  if line.getLast? = some '\r' then line.dropLast else line

theorem withoutReturn_concat (line : List Char) : withoutReturn (line ++ ['\r']) = line := by
  rw [withoutReturn, if_pos List.getLast?_concat, List.dropLast_concat]

theorem withoutReturn_of_last {line : List Char} (last : line.getLast? ≠ some '\r') :
    withoutReturn line = line :=
  if_neg last

theorem getLast?_behind (front : List Char) {line : List Char} (isNonempty : line ≠ []) :
    (front ++ line).getLast? = line.getLast? := by
  obtain ⟨start, last, rfl⟩ := (List.eq_nil_or_concat line).resolve_left isNonempty
  rw [List.concat_eq_append, ← List.append_assoc, List.getLast?_concat, List.getLast?_concat]

theorem withoutReturn_append (front : List Char) {line : List Char} (isNonempty : line ≠ []) :
    withoutReturn (front ++ line) = front ++ withoutReturn line := by
  rw [withoutReturn, withoutReturn, getLast?_behind front isNonempty]
  by_cases last : line.getLast? = some '\r'
  · rw [if_pos last, if_pos last, List.dropLast_append_of_ne_nil isNonempty]
  · rw [if_neg last, if_neg last]

theorem withoutReturn_subset (line : List Char) : withoutReturn line ⊆ line := by
  unfold withoutReturn
  split
  · exact List.dropLast_subset line
  · exact List.Subset.refl line

/-! ## The first line -/

theorem dropReturns_of_noFeed {line : List Char} (noFeed : '\n' ∉ line) :
    dropReturns line = line := by
  induction line using dropReturns.induct with
  | case1 rest => simp at noFeed
  | case2 c rest notReturn inductionHypothesis =>
      rw [dropReturns]
      · rw [inductionHypothesis fun member => noFeed (List.mem_cons_of_mem c member)]
      · exact notReturn
  | case3 => rfl

theorem dropReturns_ended {line : List Char} (noFeed : '\n' ∉ line) (rest : List Char) :
    dropReturns (line ++ '\n' :: rest) = withoutReturn line ++ '\n' :: dropReturns rest := by
  induction line with
  | nil => rfl
  | cons c line inductionHypothesis =>
      have noFeeds : '\n' ∉ line := fun member => noFeed (List.mem_cons_of_mem c member)
      cases line with
      | nil =>
          by_cases isReturn : c = '\r'
          · subst isReturn
            rfl
          · have last : [c].getLast? ≠ some '\r' := by simpa using isReturn
            rw [withoutReturn_of_last last, List.cons_append, List.nil_append, dropReturns]
            · rfl
            · intro _ same _
              exact isReturn same
      | cons d line =>
          have notFeed : d ≠ '\n' := by
            rintro rfl
            exact noFeeds List.mem_cons_self
          rw [← List.singleton_append (x := c), withoutReturn_append _ (List.cons_ne_nil d line),
            List.append_assoc, List.append_assoc, ← inductionHypothesis noFeeds]
          rw [List.singleton_append, List.singleton_append, dropReturns]
          intro _ _ same
          exact notFeed (List.cons.inj same).1

theorem dropLast_cons_of_getLast? {piece : List Char} {pieces : List (List Char)}
    (isNonempty : pieces ≠ []) :
    (match (piece :: pieces).getLast? with
      | some [] => (piece :: pieces).dropLast
      | _ => piece :: pieces) =
    piece :: (match pieces.getLast? with
      | some [] => pieces.dropLast
      | _ => pieces) := by
  obtain ⟨other, others, rfl⟩ := List.exists_cons_of_ne_nil isNonempty
  rw [List.getLast?_cons_cons, List.dropLast_cons_of_ne_nil isNonempty]
  split <;> rfl

theorem lines_nil : lines [] = [] := rfl

/-- A text without line feeds is a line. -/
theorem lines_last {line : List Char} (noFeed : '\n' ∉ line) (isNonempty : line ≠ []) :
    lines line = [line] := by
  have single : split '\n' line = [line] := by
    rw [split_eq_splitOn, List.splitOn_eq_singleton noFeed]
  rw [lines, dropReturns_of_noFeed noFeed, single]
  dsimp only [List.getLast?_singleton]
  split
  case h_1 isEmpty => exact absurd (Option.some.inj isEmpty) isNonempty
  case h_2 => rfl

/-- What precedes a line feed is a line, save for a carriage return there. -/
theorem lines_ended {line : List Char} (noFeed : '\n' ∉ line) (rest : List Char) :
    lines (line ++ '\n' :: rest) = withoutReturn line :: lines rest := by
  have noFeedLeft : '\n' ∉ withoutReturn line := fun member =>
    noFeed (withoutReturn_subset line member)
  have hasPieces : split '\n' (dropReturns rest) ≠ [] := by
    rw [split_eq_splitOn]
    exact List.splitOn_ne_nil _ _
  have pieces : split '\n' (dropReturns (line ++ '\n' :: rest)) =
      withoutReturn line :: split '\n' (dropReturns rest) := by
    rw [dropReturns_ended noFeed, split_eq_splitOn, split_eq_splitOn,
      List.splitOn_append_cons_self_of_not_mem noFeedLeft]
  rw [lines, pieces]
  exact dropLast_cons_of_getLast? hasPieces

/-- The texts are those that are a last line, and those that are a line, a line feed and a
text. -/
@[elab_as_elim]
theorem lines_induction {motive : List Char → Prop}
    (last : ∀ line, '\n' ∉ line → motive line)
    (ended : ∀ line rest, '\n' ∉ line → motive rest → motive (line ++ '\n' :: rest))
    (cs : List Char) : motive cs := by
  induction size : cs.length using Nat.strong_induction_on generalizing cs with
  | _ size inductionHypothesis =>
      by_cases member : '\n' ∈ cs
      · obtain ⟨line, rest, rfl, noFeed⟩ := List.eq_append_cons_of_mem member
        refine ended line rest noFeed (inductionHypothesis rest.length ?_ rest rfl)
        rw [← size, List.length_append, List.length_cons]
        omega
      · exact last cs member

/-! ## Lines of a trimmed text -/

/-- How many line feeds stand before the first character that is not blank. -/
def leadingFeeds (cs : List Char) : Nat :=
  (cs.takeWhile isBlank).count '\n'

/-- The text without the blanks around it, save for the line feeds at its start. -/
def stripped (cs : List Char) : List Char :=
  List.replicate (leadingFeeds cs) '\n' ++ trim cs

/-- The blanks around a text. -/
def margin (cs : List Char) : List Char :=
  cs.takeWhile isBlank ++ cs.reverse.takeWhile isBlank

/-- What is seen of a line does not depend on certain characters around it, of which a carriage
return is one. -/
structure IgnoresAround (isIgnored : Char → Prop) (view : List Char → α) : Prop where
  surrounded : ∀ before line after, (∀ c ∈ before, isIgnored c) → (∀ c ∈ after, isIgnored c) →
    view (before ++ (line ++ after)) = view line
  carriageReturn : isIgnored '\r'

theorem ignoresAround_trim : IgnoresAround (fun c => isBlank c = true) trim where
  surrounded _ line _ beforeBlank afterBlank := trim_surrounded line beforeBlank afterBlank
  carriageReturn := rfl

theorem mem_margin {before kept after : List Char} (beforeBlank : ∀ c ∈ before, isBlank c = true)
    (afterBlank : ∀ c ∈ after, isBlank c = true) {c : Char} (member : c ∈ before ∨ c ∈ after) :
    c ∈ margin (before ++ (kept ++ after)) := by
  have mirrored : ∀ c ∈ after.reverse, isBlank c = true := fun c member =>
    afterBlank c (List.mem_reverse.mp member)
  rw [margin, List.takeWhile_append_of_pos beforeBlank, List.reverse_append, List.reverse_append,
    List.append_assoc after.reverse, List.takeWhile_append_of_pos mirrored]
  rcases member with early | late
  · exact List.mem_append_left _ (List.mem_append_left _ early)
  · exact List.mem_append_right _ (List.mem_append_left _ (List.mem_reverse.mpr late))

theorem lines_feeds (count : Nat) (cs : List Char) :
    lines (List.replicate count '\n' ++ cs) = List.replicate count [] ++ lines cs := by
  induction count with
  | zero => rfl
  | succ count inductionHypothesis =>
      have feed := lines_ended (List.not_mem_nil (a := '\n')) (List.replicate count '\n' ++ cs)
      rw [List.replicate_succ, List.replicate_succ, List.cons_append, List.cons_append,
        ← inductionHypothesis]
      exact feed

namespace IgnoresAround

variable {isIgnored : Char → Prop} {view : List Char → α}

theorem before (ignores : IgnoresAround isIgnored view) {lead : List Char}
    (ignored : ∀ c ∈ lead, isIgnored c) (line : List Char) : view (lead ++ line) = view line := by
  have same := ignores.surrounded lead line [] ignored (by simp)
  rwa [List.append_nil] at same

theorem behind (ignores : IgnoresAround isIgnored view) {trail : List Char}
    (ignored : ∀ c ∈ trail, isIgnored c) (line : List Char) : view (line ++ trail) = view line :=
  ignores.surrounded [] line trail (by simp) ignored

theorem whole (ignores : IgnoresAround isIgnored view) {line : List Char}
    (ignored : ∀ c ∈ line, isIgnored c) : view line = view [] :=
  ignores.behind ignored []

theorem withoutReturn (ignores : IgnoresAround isIgnored view) (line : List Char) :
    view (withoutReturn line) = view line := by
  by_cases last : line.getLast? = some '\r'
  · obtain ⟨front, rfl⟩ := List.getLast?_eq_some_iff.mp last
    rw [withoutReturn_concat]
    exact (ignores.behind (List.forall_mem_singleton.mpr ignores.carriageReturn) front).symm
  · rw [withoutReturn_of_last last]

/-- The lines of ignored text look empty, and there are not fewer of them than line feeds. -/
theorem lines_whole (ignores : IgnoresAround isIgnored view) (cs : List Char)
    (ignored : ∀ c ∈ cs, isIgnored c) :
    ∃ others, (lines cs).map view = List.replicate (cs.count '\n' + others) (view []) := by
  induction cs using lines_induction with
  | last line noFeed =>
      rw [List.count_eq_zero_of_not_mem noFeed]
      by_cases nothing : line = []
      · subst nothing
        exact ⟨0, rfl⟩
      · refine ⟨1, ?_⟩
        rw [lines_last noFeed nothing, List.map_singleton, ignores.whole ignored]
        rfl
  | ended line rest noFeed inductionHypothesis =>
      rw [List.forall_mem_append, List.forall_mem_cons] at ignored
      obtain ⟨others, same⟩ := inductionHypothesis ignored.2.2
      refine ⟨others, ?_⟩
      rw [lines_ended noFeed, List.map_cons, ignores.withoutReturn, same,
        ignores.whole ignored.1, List.count_append, List.count_eq_zero_of_not_mem noFeed,
        List.count_cons_self, Nat.zero_add, Nat.add_right_comm, List.replicate_succ]

/-- Ignored text before another is lines that look empty, and what is before the first line. -/
theorem lines_before (ignores : IgnoresAround isIgnored view) (lead : List Char)
    (ignored : ∀ c ∈ lead, isIgnored c) {c : Char} (notFeed : c ≠ '\n') (rest : List Char) :
    (lines (lead ++ c :: rest)).map view =
      List.replicate (lead.count '\n') (view []) ++ (lines (c :: rest)).map view := by
  induction lead using lines_induction with
  | last lead noFeed =>
      rw [List.count_eq_zero_of_not_mem noFeed, List.replicate_zero, List.nil_append]
      by_cases member : '\n' ∈ rest
      · obtain ⟨line, others, rfl, lineNoFeed⟩ := List.eq_append_cons_of_mem member
        have firstNoFeed : '\n' ∉ c :: line := by simp [notFeed.symm, lineNoFeed]
        have wholeNoFeed : '\n' ∉ lead ++ c :: line := by simp [noFeed, notFeed.symm, lineNoFeed]
        rw [← List.cons_append, ← List.append_assoc, lines_ended wholeNoFeed,
          lines_ended firstNoFeed, List.map_cons, List.map_cons, ignores.withoutReturn,
          ignores.withoutReturn, ignores.before ignored]
      · have firstNoFeed : '\n' ∉ c :: rest := by simp [notFeed.symm, member]
        have wholeNoFeed : '\n' ∉ lead ++ c :: rest := by simp [noFeed, notFeed.symm, member]
        rw [lines_last wholeNoFeed (by simp), lines_last firstNoFeed (by simp),
          List.map_singleton, List.map_singleton, ignores.before ignored]
  | ended line others noFeed inductionHypothesis =>
      rw [List.forall_mem_append, List.forall_mem_cons] at ignored
      rw [List.append_assoc, List.cons_append, lines_ended noFeed, List.map_cons,
        ignores.withoutReturn, inductionHypothesis ignored.2.2, ignores.whole ignored.1,
        List.count_append, List.count_eq_zero_of_not_mem noFeed, List.count_cons_self,
        Nat.zero_add, List.replicate_succ, List.cons_append]

/-- Ignored text behind another is what is behind its last line, and lines that look empty. -/
theorem lines_behind (ignores : IgnoresAround isIgnored view) (kept : List Char)
    {trail : List Char} (ignored : ∀ c ∈ trail, isIgnored c) (isNonempty : kept ≠ [])
    (last : kept.getLast? ≠ some '\n') :
    ∃ others, (lines (kept ++ trail)).map view =
      (lines kept).map view ++ List.replicate others (view []) := by
  induction kept using lines_induction with
  | last line noFeed =>
      rw [lines_last noFeed isNonempty, List.map_singleton]
      by_cases member : '\n' ∈ trail
      · obtain ⟨start, others, rfl, startNoFeed⟩ := List.eq_append_cons_of_mem member
        rw [List.forall_mem_append, List.forall_mem_cons] at ignored
        have wholeNoFeed : '\n' ∉ line ++ start := by simp [noFeed, startNoFeed]
        obtain ⟨more, same⟩ := ignores.lines_whole others ignored.2.2
        refine ⟨others.count '\n' + more, ?_⟩
        rw [← List.append_assoc, lines_ended wholeNoFeed, List.map_cons, ignores.withoutReturn,
          ignores.behind ignored.1, same, List.singleton_append]
      · have wholeNoFeed : '\n' ∉ line ++ trail := by simp [noFeed, member]
        refine ⟨0, ?_⟩
        rw [lines_last wholeNoFeed (by simp [isNonempty]), List.map_singleton,
          ignores.behind ignored, List.replicate_zero, List.append_nil]
  | ended line rest noFeed inductionHypothesis =>
      -- The last character is not a line feed, so that there is a text behind it.
      have isNonempty : rest ≠ [] := by
        rintro rfl
        exact last List.getLast?_concat
      have restLast : rest.getLast? ≠ some '\n' := by
        rw [← List.singleton_append, ← List.append_assoc, getLast?_behind _ isNonempty] at last
        exact last
      obtain ⟨others, same⟩ := inductionHypothesis isNonempty restLast
      refine ⟨others, ?_⟩
      rw [List.append_assoc, List.cons_append, lines_ended noFeed, lines_ended noFeed,
        List.map_cons, List.map_cons, same, List.cons_append]

/-- Up to what is ignored around each, the lines of a text are those of the stripped text and
empty ones, if all blanks around the text are ignored. -/
theorem lines_stripped (ignores : IgnoresAround isIgnored view) (cs : List Char)
    (ignored : ∀ c ∈ margin cs, isIgnored c) :
    ∃ others, (lines cs).map view =
      (lines (stripped cs)).map view ++ List.replicate others (view []) := by
  rw [stripped, lines_feeds, List.map_append, List.map_replicate]
  obtain ⟨lead, trail, leadBlank, trailBlank, parted, isTrimmed⟩ := exists_trim cs
  have inMargin {c : Char} (member : c ∈ lead ∨ c ∈ trail) : isIgnored c := by
    apply ignored c
    rw [parted]
    exact mem_margin leadBlank trailBlank member
  cases kept : trim cs with
  | nil =>
      have blank := (trim_eq_nil_iff cs).mp kept
      have feeds : leadingFeeds cs = cs.count '\n' := by
        rw [leadingFeeds, List.takeWhile_eq_self_iff.mpr blank]
      rw [kept, List.nil_append] at parted
      have allIgnored : ∀ c ∈ cs, isIgnored c := fun c member =>
        inMargin (List.mem_append.mp (parted ▸ member))
      obtain ⟨others, same⟩ := ignores.lines_whole cs allIgnored
      refine ⟨others, ?_⟩
      rw [same, feeds, lines_nil, List.map_nil, List.append_nil, List.replicate_append_replicate]
  | cons c rest =>
      rw [kept] at parted isTrimmed
      have notBlank : isBlank c = false := isTrimmed.head c rfl
      have notFeed : c ≠ '\n' := by
        rintro rfl
        cases notBlank
      have last : (c :: rest).getLast? ≠ some '\n' := fun same => by
        cases isTrimmed.last '\n' same
      have feeds : leadingFeeds cs = lead.count '\n' := by
        have stops : ¬ isBlank c = true := by simp [notBlank]
        rw [leadingFeeds, parted, List.takeWhile_append_of_pos leadBlank, List.cons_append,
          List.takeWhile_cons_of_neg stops, List.append_nil]
      obtain ⟨others, same⟩ := ignores.lines_behind (c :: rest)
        (fun c member => inMargin (.inr member)) (List.cons_ne_nil c rest) last
      refine ⟨others, ?_⟩
      rw [feeds, parted, List.cons_append,
        ignores.lines_before lead (fun c member => inMargin (.inl member)) notFeed,
        ← List.cons_append, same, List.append_assoc]

end IgnoresAround

theorem isBlank_of_mem_margin {cs : List Char} {c : Char} (member : c ∈ margin cs) :
    isBlank c = true := by
  rcases List.mem_append.mp member with early | late
  · exact List.mem_takeWhile_imp early
  · exact List.mem_takeWhile_imp late

end PromptRelay.Text
