import PromptRelay.Proofs.Json.Passing

/-!
Contract: a text is a document of at most one tree.

Owns:
- that a string has its pieces and its end from its bytes alone;
- that the first byte of a value tells its kind;
- that two phrases of one part that are spelled by the same bytes are the same.

Does not own: whether a text is a document.

Where a value ends is known from skipping it, which goes on in one place only.
-/

namespace PromptRelay.Json

open Text (Bytes utf8)

/-! ## Strings -/

theorem UnitText.unique {input rest otherRest : Bytes} {unit other : Nat}
    (spelled : UnitText input unit rest) (again : UnitText input other otherRest) :
    unit = other ∧ rest = otherRest := by
  have read := readUnit_eq_ok_iff.mpr spelled
  rw [readUnit_eq_ok_iff.mpr again] at read
  cases read
  exact ⟨rfl, rfl⟩

theorem Pieces.unique {input rest otherRest : Bytes} {pieces others : List Piece}
    (spelled : Pieces input pieces rest) (again : Pieces input others otherRest) :
    pieces = others ∧ rest = otherRest := by
  induction spelled generalizing others with
  | closed =>
      cases again with
      | closed => exact ⟨rfl, rfl⟩
      | plain isPlain _ => exact absurd rfl isPlain.1
  | plain isPlain _ inductionHypothesis =>
      cases again with
      | closed => exact absurd rfl isPlain.1
      | plain _ onward =>
          obtain ⟨rfl, rfl⟩ := inductionHypothesis onward
          exact ⟨rfl, rfl⟩
      | short => exact absurd rfl isPlain.2.1
      | unit => exact absurd rfl isPlain.2.1
  | short known _ inductionHypothesis =>
      cases again with
      | plain isPlain _ => exact absurd rfl isPlain.2.1
      | short otherKnown onward =>
          obtain ⟨rfl, rfl⟩ := inductionHypothesis onward
          rw [known] at otherKnown
          cases otherKnown
          exact ⟨rfl, rfl⟩
      | unit => cases known
  | unit spelled _ inductionHypothesis =>
      cases again with
      | plain isPlain _ => exact absurd rfl isPlain.2.1
      | short known _ => cases known
      | unit otherSpelled onward =>
          obtain ⟨rfl, rfl⟩ := spelled.unique otherSpelled
          obtain ⟨rfl, rfl⟩ := inductionHypothesis onward
          exact ⟨rfl, rfl⟩

/-! ## Places -/

theorem Blanks.unique {input rest otherRest : Bytes} {mark other : UInt8}
    (blanks : Blanks input (mark :: rest)) (again : Blanks input (other :: otherRest))
    (noSpace : isSpace mark = false) (otherNoSpace : isSpace other = false) :
    mark = other ∧ rest = otherRest := by
  have found := blanks.skipSpace noSpace
  rw [again.skipSpace otherNoSpace] at found
  cases found
  exact ⟨rfl, rfl⟩

theorem Onward.unique {isFirst : Bool} {input rest otherRest : Bytes}
    (onward : Onward isFirst input rest) (again : Onward isFirst input otherRest) :
    rest = otherRest := by
  cases isFirst with
  | true =>
      have same : input = rest := onward
      have otherSame : input = otherRest := again
      rw [← same, otherSame]
  | false => exact (Blanks.unique onward again rfl rfl).2

theorem Onward.ne_closing {isFirst : Bool} {input within others rest : Bytes} {byte closing : UInt8}
    (onward : Onward isFirst input within) (found : skipSpace within = byte :: others)
    (closed : Blanks input (closing :: rest)) (noSpace : isSpace closing = false)
    (noComma : closing ≠ comma) (other : byte ≠ closing) : False := by
  cases isFirst with
  | true =>
      have same : input = within := onward
      rw [same] at closed
      rw [closed.skipSpace noSpace] at found
      cases found
      exact other rfl
  | false => exact noComma (Blanks.unique closed onward noSpace rfl).1

/-! ## Kinds -/

/-- The kinds of values, in the order in which their trees are declared. -/
def Tree.kind : Tree → Fin 6
  | .null => 0
  | .boolean _ => 1
  | .number => 2
  | .text _ => 3
  | .list _ => 4
  | .object _ => 5

/-- The kind of the values that begin with a byte. -/
def kindOf? (byte : UInt8) : Option (Fin 6) :=
  if byte = letterN then some 0
  else if byte = letterT ∨ byte = letterF then some 1
  else if byte = minus ∨ isDigitByte byte = true then some 2
  else if byte = quote then some 3
  else if byte = openList then some 4
  else if byte = openObject then some 5
  else none

theorem Tree.Opens.kindOf?_eq {tree : Tree} {byte : UInt8} (opens : tree.Opens byte) :
    kindOf? byte = some tree.kind := by
  cases tree with
  | null | text | list | object =>
      obtain rfl : byte = _ := opens
      rfl
  | boolean => rcases opens with rfl | rfl <;> rfl
  | number =>
      rcases opens with rfl | isDigit
      · rfl
      · have other {mark : UInt8} (noDigit : isDigitByte mark = false) : byte ≠ mark :=
          ne_of_isDigitByte isDigit noDigit
        have noKeyword : ¬ (byte = letterT ∨ byte = letterF) :=
          not_or.mpr ⟨other rfl, other rfl⟩
        rw [kindOf?, if_neg (other rfl), if_neg noKeyword, if_pos (.inr isDigit)]
        rfl

theorem Spells.kind_eq {tree other : Tree} {input rest otherRest : Bytes}
    (spelled : Spells (.value tree) input rest) (again : Spells (.value other) input otherRest) :
    tree.kind = other.kind := by
  obtain ⟨byte, bytes, found, opens, _⟩ := spelled.begins
  obtain ⟨otherByte, otherBytes, otherFound, otherOpens, _⟩ := again.begins
  rw [found] at otherFound
  cases otherFound
  have same := opens.kindOf?_eq
  rw [otherOpens.kindOf?_eq] at same
  exact (Option.some.inj same).symm

/-! ## Phrases -/

/-- A value ends where skipping it goes on. -/
theorem Spells.rest_eq {tree other : Tree} {input rest otherRest : Bytes}
    (spelled : Spells (.value tree) input rest) (again : Spells (.value other) input otherRest)
    (ends : Ends rest) (otherEnds : Ends otherRest) : rest = otherRest := by
  have skipped := skipValue_of_spells spelled ends
  rw [skipValue_of_spells again otherEnds] at skipped
  exact (Except.ok.inj skipped).symm

/-- The phrases that are spelled by the same bytes up to somewhere, given which part they are. -/
def IsOnly (phrase : Phrase) (input rest : Bytes) : Prop :=
  ∀ other otherRest, Spells other input otherRest → other.part = phrase.part → Ends rest →
    Ends otherRest → other = phrase ∧ otherRest = rest

theorem isOnly_value {tree : Tree} {input rest : Bytes} (spelled : Spells (.value tree) input rest)
    (same : ∀ other, other.kind = tree.kind → Ends rest → Spells (.value other) input rest →
      other = tree) : IsOnly (.value tree) input rest := by
  intro other otherRest again samePart ends otherEnds
  cases other with
  | value other =>
      obtain rfl := again.rest_eq spelled otherEnds ends
      rw [same other (again.kind_eq spelled) ends again]
      exact ⟨rfl, rfl⟩
  | items | members => cases samePart

theorem isOnly_closedList {isFirst : Bool} {input rest : Bytes}
    (blanks : Blanks input (closeList :: rest)) : IsOnly (.items isFirst []) input rest := by
  intro other otherRest again samePart _ _
  cases again with
  | closedList otherBlanks =>
      cases samePart
      exact ⟨rfl, (otherBlanks.unique blanks rfl rfl).2⟩
  | item onward value _ =>
      cases samePart
      obtain ⟨byte, bytes, found, opens, _⟩ := value.begins
      exact (onward.ne_closing found blanks rfl (by decide) (opens.ne (.inl rfl))).elim
  | _ => cases samePart

theorem isOnly_closedObject {isFirst : Bool} {input rest : Bytes}
    (blanks : Blanks input (closeObject :: rest)) : IsOnly (.members isFirst []) input rest := by
  intro other otherRest again samePart _ _
  cases again with
  | closedObject otherBlanks =>
      cases samePart
      exact ⟨rfl, (otherBlanks.unique blanks rfl rfl).2⟩
  | member onward nameBlanks _ _ _ _ _ =>
      cases samePart
      exact (onward.ne_closing (nameBlanks.skipSpace rfl) blanks rfl (by decide) (by decide)).elim
  | _ => cases samePart

theorem isOnly_item {isFirst : Bool} {tree : Tree} {trees : List Tree}
    {input atItem behind rest : Bytes} (onward : Onward isFirst input atItem)
    (value : Spells (.value tree) atItem behind) (others : Spells (.items false trees) behind rest)
    (onlyValue : IsOnly (.value tree) atItem behind)
    (onlyOthers : IsOnly (.items false trees) behind rest) :
    IsOnly (.items isFirst (tree :: trees)) input rest := by
  intro other otherRest again samePart ends otherEnds
  cases again with
  | closedList blanks =>
      cases samePart
      obtain ⟨byte, bytes, found, opens, _⟩ := value.begins
      exact (onward.ne_closing found blanks rfl (by decide) (opens.ne (.inl rfl))).elim
  | item otherOnward otherValue otherOthers =>
      cases samePart
      obtain rfl := onward.unique otherOnward
      obtain ⟨sameValue, rfl⟩ :=
        onlyValue _ _ otherValue rfl others.ends_items otherOthers.ends_items
      obtain ⟨sameOthers, rfl⟩ := onlyOthers _ _ otherOthers rfl ends otherEnds
      cases sameValue
      cases sameOthers
      exact ⟨rfl, rfl⟩
  | _ => cases samePart

theorem isOnly_member {isFirst : Bool} {pieces : List Piece} {name : Option String} {tree : Tree}
    {members : List (Option String × Tree)}
    {input atMember inName behindName atValue behind rest : Bytes}
    (onward : Onward isFirst input atMember) (blanks : Blanks atMember (quote :: inName))
    (named : Pieces inName pieces behindName) (meant : textOf? pieces = name)
    (colonBlanks : Blanks behindName (colon :: atValue))
    (others : Spells (.members false members) behind rest)
    (onlyValue : IsOnly (.value tree) atValue behind)
    (onlyOthers : IsOnly (.members false members) behind rest) :
    IsOnly (.members isFirst ((name, tree) :: members)) input rest := by
  intro other otherRest again samePart ends otherEnds
  cases again with
  | closedObject closed =>
      cases samePart
      exact (onward.ne_closing (blanks.skipSpace rfl) closed rfl (by decide) (by decide)).elim
  | member otherOnward otherBlanks otherNamed otherMeant otherColonBlanks otherValue otherOthers =>
      cases samePart
      obtain rfl := onward.unique otherOnward
      obtain ⟨_, rfl⟩ := blanks.unique otherBlanks rfl rfl
      obtain ⟨rfl, rfl⟩ := named.unique otherNamed
      obtain ⟨_, rfl⟩ := colonBlanks.unique otherColonBlanks rfl rfl
      obtain ⟨sameValue, rfl⟩ :=
        onlyValue _ _ otherValue rfl others.ends_members otherOthers.ends_members
      obtain ⟨sameOthers, rfl⟩ := onlyOthers _ _ otherOthers rfl ends otherEnds
      cases sameValue
      cases sameOthers
      rw [← meant, ← otherMeant]
      exact ⟨rfl, rfl⟩
  | _ => cases samePart

/-- By induction on what is spelled. -/
theorem Spells.isOnly {phrase : Phrase} {input rest : Bytes} (spelled : Spells phrase input rest) :
    IsOnly phrase input rest := by
  induction spelled with
  | null blanks =>
      refine isOnly_value (.null blanks) fun other sameKind _ again => ?_
      cases again with
      | null => rfl
      | _ => cases sameKind
  | @boolean value _ _ blanks =>
      refine isOnly_value (.boolean blanks) fun other sameKind _ again => ?_
      cases again with
      | @boolean otherValue _ _ otherBlanks =>
          cases value <;> cases otherValue
          · rfl
          · exact absurd (Blanks.unique blanks otherBlanks rfl rfl).1 (by decide)
          · exact absurd (Blanks.unique blanks otherBlanks rfl rfl).1 (by decide)
          · rfl
      | _ => cases sameKind
  | number isNumber blanks =>
      refine isOnly_value (.number isNumber blanks) fun other sameKind _ again => ?_
      cases again with
      | number => rfl
      | _ => cases sameKind
  | text blanks spelled meant =>
      refine isOnly_value (.text blanks spelled meant) fun other sameKind _ again => ?_
      cases again with
      | text otherBlanks otherSpelled otherMeant =>
          obtain ⟨_, rfl⟩ := blanks.unique otherBlanks rfl rfl
          obtain ⟨rfl, _⟩ := spelled.unique otherSpelled
          rw [← meant, ← otherMeant]
      | _ => cases sameKind
  | list blanks items onlyItems =>
      refine isOnly_value (.list blanks items) fun other sameKind ends again => ?_
      cases again with
      | list otherBlanks otherItems =>
          obtain ⟨_, rfl⟩ := blanks.unique otherBlanks rfl rfl
          cases (onlyItems _ _ otherItems rfl ends ends).1
          rfl
      | _ => cases sameKind
  | object blanks inner onlyInner =>
      refine isOnly_value (.object blanks inner) fun other sameKind ends again => ?_
      cases again with
      | object otherBlanks otherInner =>
          obtain ⟨_, rfl⟩ := blanks.unique otherBlanks rfl rfl
          cases (onlyInner _ _ otherInner rfl ends ends).1
          rfl
      | _ => cases sameKind
  | closedList blanks => exact isOnly_closedList blanks
  | closedObject blanks => exact isOnly_closedObject blanks
  | item onward value others onlyValue onlyOthers =>
      exact isOnly_item onward value others onlyValue onlyOthers
  | member onward blanks named meant colonBlanks _ others onlyValue onlyOthers =>
      exact isOnly_member onward blanks named meant colonBlanks others onlyValue onlyOthers

/-- A text is a document of one tree at most. -/
theorem Document.unique {text : Bytes} {tree other : Tree} (meant : Document text tree)
    (again : Document text other) : tree = other := by
  obtain ⟨rest, spelled, blank⟩ := meant
  obtain ⟨otherRest, otherSpelled, otherBlank⟩ := again
  cases (otherSpelled.isOnly _ _ spelled rfl (ends_of_blank otherBlank) (ends_of_blank blank)).1
  rfl

end PromptRelay.Json
