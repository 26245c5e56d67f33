import PromptRelay.Settings.Interpolation
import PromptRelay.World

/-!
Contract: what putting in the values of variables does to a text.

Owns:
- the division of a text into expressions and other characters, which is the only one;
- the text that comes out, or the leftmost expression for which there is none;
- what comes out of texts one after the other.

Does not own: settings files, and which texts are valid UTF-8.
-/

namespace PromptRelay

/-! ## Divisions -/

/-- What a text is made of. -/
inductive Segment where
  | character (c : Char)
  | expression (name : String)
deriving DecidableEq, Repr

/-- What a text is made of, from left to right, and what stands behind the opening of an
expression that is not closed. An expression opens wherever a dollar sign and a brace stand,
unless within another, and is closed by the next brace. -/
inductive Divides : List Char → List Segment → Option (List Char) → Prop where
  | nothing : Divides [] [] none
  | character {c : Char} {rest : List Char} {segments : List Segment}
      {unclosed : Option (List Char)} (notOpening : ¬ ['$', '\x7b'] <+: c :: rest)
      (onward : Divides rest segments unclosed) :
      Divides (c :: rest) (.character c :: segments) unclosed
  | expression {name : String} {rest : List Char} {segments : List Segment}
      {unclosed : Option (List Char)} (isName : '\x7d' ∉ name.toList)
      (onward : Divides rest segments unclosed) :
      Divides ('$' :: '\x7b' :: (name.toList ++ '\x7d' :: rest)) (.expression name :: segments)
        unclosed
  | unclosed {begun : List Char} (isBegun : '\x7d' ∉ begun) :
      Divides ('$' :: '\x7b' :: begun) [] (some begun)

theorem exists_divides (cs : List Char) : ∃ segments unclosed, Divides cs segments unclosed := by
  induction size : cs.length using Nat.strongRecOn generalizing cs with
  | _ size inductionHypothesis =>
      by_cases opening : ['$', '\x7b'] <+: cs
      · obtain ⟨behind, rfl⟩ := opening
        by_cases isClosed : '\x7d' ∈ behind
        · obtain ⟨name, rest, rfl, isName⟩ := List.eq_append_cons_of_mem isClosed
          obtain ⟨segments, unclosed, onward⟩ :=
            inductionHypothesis rest.length (by rw [← size]; simp; omega) rest rfl
          rw [← String.toList_ofList (l := name)] at isName ⊢
          exact ⟨_, _, .expression isName onward⟩
        · exact ⟨_, _, .unclosed isClosed⟩
      · cases cs with
        | nil => exact ⟨_, _, .nothing⟩
        | cons c rest =>
            obtain ⟨segments, unclosed, onward⟩ :=
              inductionHypothesis rest.length (by rw [← size]; simp) rest rfl
            exact ⟨_, _, .character opening onward⟩

/-- Where two texts part at their first closing brace, they are the same before and behind. -/
theorem closed_inj {name other rest others : List Char} (isName : '\x7d' ∉ name)
    (isOther : '\x7d' ∉ other) (same : name ++ '\x7d' :: rest = other ++ '\x7d' :: others) :
    name = other ∧ rest = others := by
  induction name generalizing other with
  | nil =>
      cases other with
      | nil => exact ⟨rfl, (List.cons.inj same).2⟩
      | cons c other =>
          obtain ⟨rfl, _⟩ := List.cons.inj same
          exact absurd List.mem_cons_self isOther
  | cons c name inductionHypothesis =>
      cases other with
      | nil =>
          obtain ⟨rfl, _⟩ := List.cons.inj same
          exact absurd List.mem_cons_self isName
      | cons d other =>
          obtain ⟨rfl, onward⟩ := List.cons.inj same
          obtain ⟨rfl, rfl⟩ := inductionHypothesis (List.not_mem_of_not_mem_cons isName)
            (List.not_mem_of_not_mem_cons isOther) onward
          exact ⟨rfl, rfl⟩

theorem Divides.opening {behind : List Char} {segments : List Segment}
    {unclosed : Option (List Char)}
    (divides : Divides ('$' :: '\x7b' :: behind) segments unclosed) :
    (∃ name rest others, behind = String.toList name ++ '\x7d' :: rest ∧ '\x7d' ∉ name.toList ∧
        Divides rest others unclosed ∧ segments = .expression name :: others) ∨
      '\x7d' ∉ behind ∧ segments = [] ∧ unclosed = some behind := by
  generalize whole : '$' :: '\x7b' :: behind = cs at divides
  cases divides with
  | nothing => cases whole
  | character notOpening onward =>
      rw [← whole] at notOpening
      exact absurd ⟨behind, rfl⟩ notOpening
  | expression isName onward =>
      obtain rfl := (List.cons.inj (List.cons.inj whole).2).2
      exact .inl ⟨_, _, _, rfl, isName, onward, rfl⟩
  | unclosed isBegun =>
      obtain rfl := (List.cons.inj (List.cons.inj whole).2).2
      exact .inr ⟨isBegun, rfl, rfl⟩

/-- A text divides in one way only. -/
theorem Divides.unique {cs : List Char} {segments others : List Segment}
    {unclosed other : Option (List Char)} (divides : Divides cs segments unclosed)
    (again : Divides cs others other) : others = segments ∧ other = unclosed := by
  induction divides generalizing others with
  | nothing =>
      cases again
      exact ⟨rfl, rfl⟩
  | @character c rest segments unclosed notOpening onward inductionHypothesis =>
      generalize whole : c :: rest = cs at again
      cases again with
      | nothing => cases whole
      | character _ onwardAgain =>
          obtain ⟨rfl, rfl⟩ := List.cons.inj whole
          obtain ⟨rfl, rfl⟩ := inductionHypothesis onwardAgain
          exact ⟨rfl, rfl⟩
      | expression _ _ => exact absurd ⟨_, whole.symm⟩ notOpening
      | unclosed _ => exact absurd ⟨_, whole.symm⟩ notOpening
  | @expression name rest segments unclosed isName onward inductionHypothesis =>
      rcases again.opening with ⟨otherName, otherRest, otherSegments, same, isOther, onwardAgain,
        rfl⟩ | ⟨isBegun, _⟩
      · obtain ⟨sameName, rfl⟩ := closed_inj isName isOther same
        obtain rfl := String.toList_inj.mp sameName
        obtain ⟨rfl, rfl⟩ := inductionHypothesis onwardAgain
        exact ⟨rfl, rfl⟩
      · exact absurd (List.mem_append_right _ List.mem_cons_self) isBegun
  | @unclosed begun isBegun =>
      rcases again.opening with ⟨name, rest, _, rfl, _⟩ | ⟨_, rfl, rfl⟩
      · exact absurd (List.mem_append_right _ List.mem_cons_self) isBegun
      · exact ⟨rfl, rfl⟩

/-- A text in which no expression opens is made of its characters. -/
theorem divides_of_noOpening {cs : List Char} (noOpening : ¬ ['$', '\x7b'] <:+: cs) :
    Divides cs (cs.map .character) none := by
  induction cs with
  | nil => exact .nothing
  | cons c rest inductionHypothesis =>
      rw [List.infix_cons_iff, not_or] at noOpening
      exact .character noOpening.1 (inductionHypothesis noOpening.2)

/-! ## Segments of a text, as the scanner finds them -/

section

variable {value? : String → Option String}

theorem replaceExpressions_character {c : Char} {rest : List Char}
    (notOpening : ¬ ['$', '\x7b'] <+: c :: rest) :
    replaceExpressions value? none (c :: rest) =
      (replaceExpressions value? none rest).map (c :: ·) := by
  rw [replaceExpressions]
  rintro behind rfl rfl
  exact notOpening ⟨behind, rfl⟩

/-- Inside of an expression, its name goes on up to the next closing brace. -/
theorem replaceExpressions_name {name : List Char} (isName : '\x7d' ∉ name)
    (begun rest : List Char) :
    replaceExpressions value? (some begun) (name ++ '\x7d' :: rest) =
      replaceExpressions value? (some (name.reverse ++ begun)) ('\x7d' :: rest) := by
  induction name generalizing begun with
  | nil => rfl
  | cons c name inductionHypothesis =>
      rw [List.mem_cons, not_or] at isName
      have first : replaceExpressions value? (some begun) (c :: (name ++ '\x7d' :: rest)) =
          replaceExpressions value? (some (c :: begun)) (name ++ '\x7d' :: rest) := by
        rw [replaceExpressions]
        exact fun same => isName.1 same.symm
      rw [List.cons_append, first, inductionHypothesis isName.2, List.reverse_cons,
        List.append_assoc, List.singleton_append]

theorem replaceExpressions_closed (begun rest : List Char) :
    replaceExpressions value? (some begun) ('\x7d' :: rest) =
      match value? (String.ofList begun.reverse) with
      | none => .error (.missing (String.ofList begun.reverse))
      | some value => (replaceExpressions value? none rest).map (value.toList ++ ·) := rfl

theorem replaceExpressions_expression {name : String} (isName : '\x7d' ∉ name.toList)
    (rest : List Char) :
    replaceExpressions value? none ('$' :: '\x7b' :: (name.toList ++ '\x7d' :: rest)) =
      match value? name with
      | none => .error (.missing name)
      | some value => (replaceExpressions value? none rest).map (value.toList ++ ·) := by
  rw [replaceExpressions, replaceExpressions_name isName, replaceExpressions_closed,
    List.append_nil, List.reverse_reverse, String.ofList_toList]

theorem replaceExpressions_unclosed {begun : List Char} (isBegun : '\x7d' ∉ begun)
    (soFar : List Char) :
    replaceExpressions value? (some soFar) begun = .error .unterminated := by
  induction begun generalizing soFar with
  | nil => rfl
  | cons c begun inductionHypothesis =>
      rw [List.mem_cons, not_or] at isBegun
      rw [replaceExpressions, inductionHypothesis isBegun.2]
      exact fun same => isBegun.1 same.symm

/-- The names that segments ask for. -/
def Segment.names (segments : List Segment) : List String :=
  segments.filterMap fun
    | .character _ => none
    | .expression name => some name

/-- A segment with the value of a variable in place of an expression. -/
def Segment.filled (value? : String → Option String) : Segment → List Char
  | .character c => [c]
  | .expression name => ((value? name).getD "").toList

/-- Expressions that have values are put in, whatever there is behind them. -/
theorem Divides.passes {earlier later : List Segment} {cs : List Char}
    {unclosed : Option (List Char)} (divides : Divides cs (earlier ++ later) unclosed)
    (set : ∀ name ∈ Segment.names earlier, (value? name).isSome = true) :
    ∃ rest, Divides rest later unclosed ∧ replaceExpressions value? none cs =
      (replaceExpressions value? none rest).map (earlier.flatMap (Segment.filled value?) ++ ·) := by
  induction earlier generalizing cs with
  | nil =>
      refine ⟨cs, divides, ?_⟩
      cases replaceExpressions value? none cs <;> rfl
  | cons segment earlier inductionHypothesis =>
      cases divides with
      | @character c behind _ _ notOpening onward =>
          obtain ⟨rest, left, replaced⟩ := inductionHypothesis onward set
          refine ⟨rest, left, ?_⟩
          rw [replaceExpressions_character notOpening, replaced]
          cases replaceExpressions value? none rest <;> rfl
      | @expression name behind _ _ isName onward =>
          have isSet : (value? name).isSome = true := set name List.mem_cons_self
          obtain ⟨value, found⟩ := Option.isSome_iff_exists.mp isSet
          obtain ⟨rest, left, replaced⟩ := inductionHypothesis onward fun other member =>
            set other (List.mem_cons_of_mem name member)
          have filled : Segment.filled value? (.expression name) = value.toList := by
            rw [Segment.filled, found, Option.getD_some]
          refine ⟨rest, left, ?_⟩
          rw [replaceExpressions_expression isName, found, replaced, List.flatMap_cons, filled]
          cases replaceExpressions value? none rest with
          | error fault => rfl
          | ok others => exact congrArg Except.ok (List.append_assoc _ _ _).symm

theorem interpolate_filled {text : String} {segments : List Segment}
    (divides : Divides text.toList segments none)
    (set : ∀ name ∈ Segment.names segments, (value? name).isSome = true) :
    interpolate value? text =
      .ok (String.ofList (segments.flatMap (Segment.filled value?))) := by
  rw [← List.append_nil segments] at divides
  obtain ⟨rest, left, replaced⟩ := divides.passes set
  cases left
  rw [interpolate, replaced]
  exact congrArg (Except.ok ∘ String.ofList) (List.append_nil _)

theorem interpolate_missing {text name : String} {earlier later : List Segment}
    {unclosed : Option (List Char)}
    (divides : Divides text.toList (earlier ++ .expression name :: later) unclosed)
    (set : ∀ other ∈ Segment.names earlier, (value? other).isSome = true)
    (unset : value? name = none) : interpolate value? text = .error (.missing name) := by
  obtain ⟨rest, left, replaced⟩ := divides.passes set
  cases left with
  | expression isName onward =>
      rw [interpolate, replaced, replaceExpressions_expression isName, unset]
      rfl

theorem interpolate_unterminated {text : String} {segments : List Segment} {begun : List Char}
    (divides : Divides text.toList segments (some begun))
    (set : ∀ name ∈ Segment.names segments, (value? name).isSome = true) :
    interpolate value? text = .error .unterminated := by
  rw [← List.append_nil segments] at divides
  obtain ⟨rest, left, replaced⟩ := divides.passes set
  cases left with
  | unclosed isBegun =>
      rw [interpolate, replaced, replaceExpressions, replaceExpressions_unclosed isBegun]
      rfl

/-- Of the names that have no value, there is a leftmost. -/
theorem Segment.exists_first_unset {segments : List Segment}
    (unset : ∃ name ∈ Segment.names segments, value? name = none) :
    ∃ earlier name later, segments = earlier ++ .expression name :: later ∧ value? name = none ∧
      ∀ other ∈ Segment.names earlier, (value? other).isSome = true := by
  induction segments with
  | nil => simp [Segment.names] at unset
  | cons segment segments inductionHypothesis =>
      cases segment with
      | character c =>
          obtain ⟨earlier, name, later, rfl, isUnset, set⟩ := inductionHypothesis unset
          exact ⟨.character c :: earlier, name, later, rfl, isUnset, set⟩
      | expression name =>
          cases found : value? name with
          | none => exact ⟨[], name, segments, rfl, found, by simp [Segment.names]⟩
          | some value =>
              have behind : ∃ other ∈ Segment.names segments, value? other = none := by
                obtain ⟨other, member, isUnset⟩ := unset
                rcases List.mem_cons.mp member with rfl | later
                · rw [found] at isUnset
                  cases isUnset
                · exact ⟨other, later, isUnset⟩
              obtain ⟨earlier, other, later, rfl, isUnset, set⟩ := inductionHypothesis behind
              refine ⟨.expression name :: earlier, other, later, rfl, isUnset, ?_⟩
              have isSet : (value? name).isSome = true := by rw [found]; rfl
              exact List.forall_mem_cons.mpr ⟨isSet, set⟩

/-- What comes out of a text behind which another stands, unless the first ends within an
expression or with a dollar sign. -/
theorem replaceExpressions_append {cs : List Char} {segments : List Segment}
    {unclosed : Option (List Char)} (divides : Divides cs segments unclosed)
    (closed : unclosed = none) (noDollar : ¬ ['$'] <:+ cs) (rest : List Char) :
    replaceExpressions value? none (cs ++ rest) = (do
      let first ← replaceExpressions value? none cs
      let second ← replaceExpressions value? none rest
      .ok (first ++ second)) := by
  induction divides with
  | nothing =>
      rw [List.nil_append, replaceExpressions]
      cases replaceExpressions value? none rest <;> rfl
  | @character c behind segments unclosed notOpening _ inductionHypothesis =>
      have noDollarBehind : ¬ ['$'] <:+ behind := fun dollar =>
        noDollar (dollar.trans (List.suffix_cons c behind))
      have notOpened : ¬ ['$', '\x7b'] <+: c :: (behind ++ rest) := by
        intro opening
        obtain ⟨rfl, brace⟩ := List.cons_prefix_cons.mp opening
        cases behind with
        | nil => exact noDollar List.suffix_rfl
        | cons d behind =>
            obtain ⟨rfl, _⟩ := List.cons_prefix_cons.mp brace
            exact notOpening ⟨behind, rfl⟩
      rw [List.cons_append, replaceExpressions_character notOpened,
        replaceExpressions_character notOpening, inductionHypothesis closed noDollarBehind]
      cases replaceExpressions value? none behind <;>
        cases replaceExpressions value? none rest <;> rfl
  | @expression name behind segments unclosed isName _ inductionHypothesis =>
      have isSuffix : behind <:+ '$' :: '\x7b' :: (name.toList ++ '\x7d' :: behind) :=
        ⟨'$' :: '\x7b' :: (name.toList ++ ['\x7d']), by simp⟩
      have noDollarBehind : ¬ ['$'] <:+ behind := fun dollar => noDollar (dollar.trans isSuffix)
      rw [List.cons_append, List.cons_append, List.append_assoc, List.cons_append,
        replaceExpressions_expression isName, replaceExpressions_expression isName,
        inductionHypothesis closed noDollarBehind]
      cases value? name with
      | none => rfl
      | some value =>
          cases replaceExpressions value? none behind with
          | error fault => rfl
          | ok first =>
              cases replaceExpressions value? none rest with
              | error fault => rfl
              | ok second => exact congrArg Except.ok (List.append_assoc _ _ _).symm
  | unclosed _ => cases closed

end

/-! ## Summary -/

/-- Interpolation as one pass of substitution: what comes out of a text that divides like this,
or the leftmost expression for which nothing does. -/
structure Substitutes (value? : String → Option String) (text : String)
    (segments : List Segment) (unclosed : Option (List Char)) : Prop where
  divides : Divides text.toList segments unclosed
  unique : ∀ others other, Divides text.toList others other →
    others = segments ∧ other = unclosed
  filled : unclosed = none → (∀ name ∈ Segment.names segments, (value? name).isSome = true) →
    interpolate value? text = .ok (String.ofList (segments.flatMap (Segment.filled value?)))
  missing : ∀ earlier name later, segments = earlier ++ .expression name :: later →
    (∀ other ∈ Segment.names earlier, (value? other).isSome = true) → value? name = none →
    interpolate value? text = .error (.missing name)
  unterminated : unclosed.isSome = true →
    (∀ name ∈ Segment.names segments, (value? name).isSome = true) →
    interpolate value? text = .error .unterminated
  fails_iff : (∃ error, interpolate value? text = .error error) ↔
    unclosed.isSome = true ∨ ∃ name ∈ Segment.names segments, value? name = none
  /-- Another text behind this one is interpolated by itself. -/
  append : unclosed = none → ¬ ['$'] <:+ text.toList → ∀ other : String,
    interpolate value? (text ++ other) = do
      let first ← interpolate value? text
      let second ← interpolate value? other
      .ok (first ++ second)

theorem substitutes_of_divides {value? : String → Option String} {text : String}
    {segments : List Segment} {unclosed : Option (List Char)}
    (divides : Divides text.toList segments unclosed) :
    Substitutes value? text segments unclosed where
  divides := divides
  unique _ _ again := divides.unique again
  filled closed set := by
    subst closed
    exact interpolate_filled divides set
  missing earlier name later parted set unset := by
    subst parted
    exact interpolate_missing divides set unset
  unterminated isUnclosed set := by
    obtain ⟨begun, rfl⟩ := Option.isSome_iff_exists.mp isUnclosed
    exact interpolate_unterminated divides set
  fails_iff := by
    by_cases unset : ∃ name ∈ Segment.names segments, value? name = none
    · obtain ⟨earlier, name, later, parted, isUnset, set⟩ := Segment.exists_first_unset unset
      subst parted
      exact iff_of_true ⟨_, interpolate_missing divides set isUnset⟩ (.inr unset)
    · have set : ∀ name ∈ Segment.names segments, (value? name).isSome = true := by
        intro name member
        rw [Option.isSome_iff_ne_none]
        exact fun isUnset => unset ⟨name, member, isUnset⟩
      cases unclosed with
      | none =>
          rw [interpolate_filled divides set]
          simp [unset]
      | some begun => exact iff_of_true ⟨_, interpolate_unterminated divides set⟩ (.inl rfl)
  append closed noDollar other := by
    rw [interpolate, String.toList_append, replaceExpressions_append divides closed noDollar,
      interpolate, interpolate]
    cases replaceExpressions value? none text.toList with
    | error fault => rfl
    | ok first =>
        cases replaceExpressions value? none other.toList with
        | error fault => rfl
        | ok second => exact congrArg Except.ok String.ofList_append

theorem World.variableText?_eq_none_iff (world : World) (name : String) :
    world.variableText? name = none ↔ world.variableBytes? name = none ∨
      ∃ octets, world.variableBytes? name = some octets ∧ Text.ofBytes? octets = none := by
  unfold World.variableText?
  cases world.variableBytes? name <;> simp

/-- In every environment and for every text, interpolation is one pass of substitution. It leaves
a text as it is in which no expression opens, and there is no value to put in exactly for a
variable that is not set or not valid UTF-8. -/
theorem interpolate_substitutes (world : World) (text : String) :
    (∃ segments unclosed, Substitutes world.variableText? text segments unclosed) ∧
      (¬ ['$', '\x7b'] <:+: text.toList → interpolate world.variableText? text = .ok text) ∧
      ∀ name, world.variableText? name = none ↔ world.variableBytes? name = none ∨
        ∃ octets, world.variableBytes? name = some octets ∧ Text.ofBytes? octets = none := by
  refine ⟨?_, ?_, world.variableText?_eq_none_iff⟩
  · obtain ⟨segments, unclosed, divides⟩ := exists_divides text.toList
    exact ⟨segments, unclosed, substitutes_of_divides divides⟩
  · intro noOpening
    have divides := divides_of_noOpening noOpening
    have noNames : Segment.names (text.toList.map Segment.character) = [] := by
      simp [Segment.names, List.filterMap_map]
    rw [interpolate_filled divides (by simp [noNames])]
    have same : (text.toList.map Segment.character).flatMap
        (Segment.filled world.variableText?) = text.toList := by
      rw [List.flatMap_map]
      exact List.flatMap_singleton' text.toList
    rw [same, String.ofList_toList]

/-- A name may have a dollar sign and a brace, and a value is not looked at again. -/
example :
    let value? (name : String) : Option String :=
      if name = "A$\x7bB" then some "$\x7bC\x7d" else none
    (interpolate value? "$$\x7bA$\x7bB\x7d\x7d$").toOption = some "$$\x7bC\x7d\x7d$" := by
  decide +kernel

end PromptRelay
