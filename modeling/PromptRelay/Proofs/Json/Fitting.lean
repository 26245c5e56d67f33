import Mathlib.Data.List.Forall2
import PromptRelay.Json.Record
import PromptRelay.Proofs.Json.Passing

/-!
Contract: a reader of values of a known shape finds a value exactly where there is a document
of that shape.

Owns:
- what a reader takes a tree as, and what it means that it reads the trees of a shape and no
  others;
- that the readers of strings, optional values, lists and records are such readers if those
  of their parts are;
- what the reader of a record with a single known member looks at.

Does not own: which fault a reader has where there is no such document.

A reader is compared with a partial function on trees. Both directions are kept together, since
a reader of a list or a record has both only if the readers of its parts do.
-/

namespace PromptRelay.Json

open Text (Bytes utf8)
open Result (ok_bind bind_eq_ok_iff)

/-! ## Readers and trees -/

/-- The reader takes every spelling of the tree as the value. -/
def Takes (read : Reader α) (tree : Tree) (value : α) : Prop :=
  ∀ input rest, Spells (.value tree) input rest → Ends rest → read input = .ok (value, rest)

/-- Whatever the reader finds is a value that some tree has, whose spelling it has read. -/
def Finds (read : Reader α) (meant : Tree → α → Prop) : Prop :=
  ∀ input value rest, read input = .ok (value, rest) →
    ∃ tree, Spells (.value tree) input rest ∧ meant tree value

/-- A reader that reads the trees which fit, as what they say, and nothing else. -/
structure Decides (read : Reader α) (fit : Tree → Option α) : Prop where
  takes : ∀ tree value, fit tree = some value → Takes read tree value
  finds : Finds read fun tree value => fit tree = some value

theorem Takes.map {read : Reader α} {tree : Tree} {value : α} (takes : Takes read tree value)
    (convert : α → β) :
    Takes (fun input => do let (value, rest) ← read input; .ok (convert value, rest)) tree
      (convert value) := by
  intro input rest spelled ends
  dsimp only
  rw [takes input rest spelled ends, ok_bind]

/-- A text is read as a whole if it is a document that the reader takes. -/
theorem Takes.readWhole {read : Reader α} {tree : Tree} {value : α} (takes : Takes read tree value)
    {text : Bytes} (meant : Document text tree) : readWhole read text = .ok value := by
  obtain ⟨rest, spelled, blank⟩ := meant
  rw [Json.readWhole, takes text rest spelled (ends_of_blank blank), ok_bind]
  dsimp only
  rw [skipSpace_eq_nil_iff.mpr blank]
  rfl

theorem Decides.map {read : Reader α} {fit : Tree → Option α} (decides : Decides read fit)
    (convert : α → β) :
    Decides (fun input => do let (value, rest) ← read input; .ok (convert value, rest))
      fun tree => (fit tree).map convert where
  takes tree value fits := by
    obtain ⟨found, fitsFound, rfl⟩ := Option.map_eq_some_iff.mp fits
    exact (decides.takes tree found fitsFound).map convert
  finds input value rest read := by
    obtain ⟨⟨found, between⟩, readFound, same⟩ := bind_eq_ok_iff.mp read
    cases same
    obtain ⟨tree, spelled, fits⟩ := decides.finds _ _ _ readFound
    exact ⟨tree, spelled, Option.map_eq_some_iff.mpr ⟨found, fits, rfl⟩⟩

/-- A text is read as a whole exactly if it is a document that fits. -/
theorem Decides.readWhole_eq_ok_iff {read : Reader α} {fit : Tree → Option α}
    (decides : Decides read fit) {text : Bytes} {value : α} :
    readWhole read text = .ok value ↔ ∃ tree, Document text tree ∧ fit tree = some value := by
  constructor
  · intro read
    obtain ⟨⟨found, rest⟩, readFound, onward⟩ := bind_eq_ok_iff.mp read
    dsimp only at onward
    split at onward
    case isTrue blank =>
      cases onward
      obtain ⟨tree, spelled, fits⟩ := decides.finds _ _ _ readFound
      exact ⟨tree, ⟨rest, spelled, skipSpace_eq_nil_iff.mp (List.isEmpty_iff.mp blank)⟩, fits⟩
    case isFalse => cases onward
  · rintro ⟨tree, meant, fits⟩
    exact (decides.takes tree value fits).readWhole meant

/-! ## Strings and optional values -/

/-- The text of a tree that is a string with one. -/
def Tree.text? : Tree → Option String
  | .text value => value
  | _ => none

theorem decides_readString : Decides readString Tree.text? where
  takes tree value fits input rest spelled _ := by
    cases spelled with
    | text blanks spelled meant =>
        have isText : _ = some value := fits
        simp only [readString, blanks.skipSpace rfl, if_pos]
        exact readQuoted_eq_ok_iff.mpr ⟨_, spelled, meant.trans isText⟩
    | null | boolean | number | list | object => cases fits
  finds input value rest read := by
    unfold readString at read
    split at read
    case h_1 => cases read
    case h_2 byte between found =>
      split at read
      case isTrue isQuote =>
        subst isQuote
        obtain ⟨pieces, spelled, meant⟩ := readQuoted_eq_ok_iff.mp read
        exact ⟨_, .text (blanks_of_skipSpace found) spelled meant, rfl⟩
      case isFalse => cases read

/-- `null`, or what fits. -/
def Tree.optional? (fit : Tree → Option α) : Tree → Option (Option α)
  | .null => some none
  | tree => (fit tree).map some

/-- Every value but `null` begins with another byte than `null`. -/
theorem Tree.Opens.ne_letterN {tree : Tree} {byte : UInt8} (opens : tree.Opens byte)
    (other : tree ≠ .null) : byte ≠ letterN := by
  rintro rfl
  cases tree with
  | null => exact other rfl
  | boolean => rcases opens with isTrue | isFalse <;> contradiction
  | number => rcases opens with isMinus | isDigit <;> contradiction
  | text | list | object => cases opens

theorem Tree.optional?_of_ne_null {fit : Tree → Option α} {tree : Tree} (other : tree ≠ .null) :
    tree.optional? fit = (fit tree).map some := by
  cases tree with
  | null => exact absurd rfl other
  | boolean | number | text | list | object => rfl

theorem Decides.readOptional {read : Reader α} {fit : Tree → Option α}
    (decides : Decides read fit) : Decides (readOptional read) (Tree.optional? fit) where
  takes tree value fits input rest spelled ends := by
    by_cases isNull : tree = .null
    · subst isNull
      cases fits
      cases spelled with
      | null blanks =>
          simp only [Json.readOptional, blanks.skipSpace rfl, if_pos, expect_append, ok_bind]
    · obtain ⟨byte, others, found, opens, onward⟩ := spelled.begins
      rw [Tree.optional?_of_ne_null isNull] at fits
      obtain ⟨inner, fitsInner, rfl⟩ := Option.map_eq_some_iff.mp fits
      simp only [Json.readOptional, found, if_neg (opens.ne_letterN isNull),
        decides.takes tree inner fitsInner _ rest onward ends, ok_bind]
  finds input value rest read := by
    unfold Json.readOptional at read
    split at read
    case h_1 => cases read
    case h_2 byte between found =>
      have blanks := blanks_of_skipSpace found
      split at read
      case isTrue isNull =>
        obtain ⟨behind, expected, same⟩ := bind_eq_ok_iff.mp read
        cases same
        rw [isNull, eq_of_expect expected] at blanks
        exact ⟨.null, .null blanks, rfl⟩
      case isFalse noNull =>
        obtain ⟨⟨inner, behind⟩, readInner, same⟩ := bind_eq_ok_iff.mp read
        cases same
        obtain ⟨tree, spelled, fits⟩ := decides.finds _ _ _ readInner
        have isOther : tree ≠ .null := by
          rintro rfl
          obtain ⟨first, others, foundFirst, opens, _⟩ := spelled.begins
          have noSpace := isSpace_of_skipSpace found
          rw [(Blanks.refl (byte :: between)).skipSpace noSpace] at foundFirst
          cases foundFirst
          exact noNull opens
        refine ⟨tree, spelled.after_blanks blanks, ?_⟩
        show tree.optional? fit = some (some inner)
        rw [Tree.optional?_of_ne_null isOther, fits]
        rfl

/-! ## Lists -/

/-- The items of a list, if all of them fit. -/
def Tree.list? (fit : Tree → Option α) : Tree → Option (List α)
  | .list items => items.mapM fit
  | _ => none

theorem nextItem_closeList {isFirst : Bool} {input rest : Bytes}
    (blanks : Blanks input (closeList :: rest)) : nextItem isFirst input = .ok (.closed rest) := by
  rw [nextItem, blanks.skipSpace rfl]
  rfl

theorem nextItem_onward {isFirst : Bool} {input atItem others : Bytes} {byte : UInt8}
    (onward : Onward isFirst input atItem) (found : skipSpace atItem = byte :: others)
    (noClosing : byte ≠ closeList) : nextItem isFirst input = .ok (.item (byte :: others)) := by
  cases isFirst with
  | true =>
      have same : input = atItem := onward
      subst same
      rw [nextItem, found]
      exact if_neg noClosing
  | false =>
      have blanks : Blanks input (comma :: atItem) := onward
      rw [nextItem, blanks.skipSpace rfl]
      dsimp only
      rw [if_neg (by decide), if_neg (by decide), if_pos rfl, found]
      exact if_neg noClosing

theorem nextItem_eq_closed {isFirst : Bool} {input rest : Bytes}
    (next : nextItem isFirst input = .ok (.closed rest)) : Blanks input (closeList :: rest) := by
  unfold nextItem at next
  split at next
  case h_1 => cases next
  case h_2 byte between found =>
    split at next
    case isTrue isClosed =>
      cases next
      rw [isClosed] at found
      exact blanks_of_skipSpace found
    case isFalse =>
      repeat' split at next
      all_goals cases next

theorem nextItem_eq_item {isFirst : Bool} {input atItem : Bytes}
    (next : nextItem isFirst input = .ok (.item atItem)) :
    ∃ within, Onward isFirst input within ∧ Blanks within atItem := by
  unfold nextItem at next
  split at next
  case h_1 => cases next
  case h_2 byte between found =>
    have blanks := blanks_of_skipSpace found
    split at next
    case isTrue => cases next
    case isFalse =>
      split at next
      case isTrue isFirst =>
        subst isFirst
        cases next
        exact ⟨input, rfl, blanks⟩
      case isFalse isLater =>
        rw [Bool.not_eq_true] at isLater
        subst isLater
        split at next
        case isTrue isComma =>
          subst isComma
          split at next
          case h_1 => cases next
          case h_2 first others foundFirst =>
            split at next
            case isTrue => cases next
            case isFalse =>
              cases next
              exact ⟨between, blanks, blanks_of_skipSpace foundFirst⟩
        case isFalse => cases next

section

variable {read : Reader α}

theorem readItems_of_spells {trees : List Tree} {values : List α}
    (takes : List.Forall₂ (Takes read) trees values) {isFirst : Bool} {input rest : Bytes}
    (spelled : Spells (.items isFirst trees) input rest) (fuel : Nat)
    (enough : trees.length < fuel) : readItems read fuel isFirst input = .ok (values, rest) := by
  induction takes generalizing isFirst input fuel with
  | nil =>
      cases spelled with
      | closedList blanks =>
          obtain ⟨left, rfl⟩ : ∃ left, fuel = left + 1 := ⟨fuel - 1, by omega⟩
          rw [readItems, nextItem_closeList blanks, ok_bind]
  | cons takesFirst _ inductionHypothesis =>
      rw [List.length_cons] at enough
      obtain ⟨left, rfl⟩ : ∃ left, fuel = left + 1 := ⟨fuel - 1, by omega⟩
      cases spelled with
      | item onward first behind =>
          obtain ⟨byte, bytes, found, opens, bare⟩ := first.begins
          rw [readItems, nextItem_onward onward found (opens.ne (.inl rfl)), ok_bind]
          dsimp only
          rw [takesFirst _ _ bare behind.ends_items, ok_bind]
          dsimp only
          rw [inductionHypothesis behind left (by omega)]
          rfl

theorem takes_readList {trees : List Tree} {values : List α}
    (takes : List.Forall₂ (Takes read) trees values) :
    Takes (readList read) (.list trees) values := by
  intro input rest spelled _
  cases spelled with
  | list blanks items =>
      have enough := items.size_le
      simp only [Phrase.size] at enough
      simp only [Json.readList, blanks.skipSpace rfl, if_pos]
      exact readItems_of_spells takes items _ (by omega)

theorem forall₂_of_mapM {fit : Tree → Option α} {trees : List Tree} {values : List α}
    (fits : trees.mapM fit = some values) :
    List.Forall₂ (fun tree value => fit tree = some value) trees values := by
  induction trees generalizing values with
  | nil =>
      rw [List.mapM_nil] at fits
      cases fits
      exact .nil
  | cons tree trees inductionHypothesis =>
      rw [List.mapM_cons] at fits
      obtain ⟨value, fitsFirst, onward⟩ := Option.bind_eq_some_iff.mp fits
      obtain ⟨others, fitsOthers, same⟩ := Option.bind_eq_some_iff.mp onward
      cases same
      exact .cons fitsFirst (inductionHypothesis fitsOthers)

variable {fit : Tree → Option α} (decides : Decides read fit)
include decides

theorem Decides.exists_trees_of_readItems {fuel : Nat} {isFirst : Bool} {input rest : Bytes}
    {values : List α} (taken : readItems read fuel isFirst input = .ok (values, rest)) :
    ∃ trees, Spells (.items isFirst trees) input rest ∧ trees.mapM fit = some values := by
  induction fuel generalizing isFirst input values with
  | zero => cases taken
  | succ fuel inductionHypothesis =>
      rw [readItems] at taken
      obtain ⟨step, next, taken⟩ := bind_eq_ok_iff.mp taken
      cases step with
      | closed behind =>
          cases taken
          exact ⟨[], .closedList (nextItem_eq_closed next), rfl⟩
      | item atItem =>
          obtain ⟨⟨value, behind⟩, readValue, taken⟩ := bind_eq_ok_iff.mp taken
          obtain ⟨⟨others, last⟩, readOthers, same⟩ := bind_eq_ok_iff.mp taken
          cases same
          obtain ⟨within, onward, blanks⟩ := nextItem_eq_item next
          obtain ⟨tree, spelled, fits⟩ := decides.finds _ _ _ readValue
          obtain ⟨trees, spelledOthers, fitsOthers⟩ := inductionHypothesis readOthers
          refine ⟨tree :: trees, .item onward (spelled.after_blanks blanks) spelledOthers, ?_⟩
          rw [List.mapM_cons, fits, fitsOthers]
          rfl

theorem Decides.readList : Decides (readList read) (Tree.list? fit) where
  takes tree values fits := by
    cases tree with
    | list items =>
        exact takes_readList ((forall₂_of_mapM fits).imp fun tree value => decides.takes tree value)
    | null | boolean | number | text | object => cases fits
  finds input values rest taken := by
    unfold Json.readList at taken
    split at taken
    case h_1 => cases taken
    case h_2 byte between found =>
      split at taken
      case isTrue isList =>
        subst isList
        obtain ⟨trees, spelled, fits⟩ := decides.exists_trees_of_readItems taken
        exact ⟨.list trees, .list (blanks_of_skipSpace found) spelled, fits⟩
      case isFalse => cases taken

end

/-! ## Records -/

/-- What becomes of a draft with the members of an object, one after the other. Every name has
to be a text. A value under an unknown name does not matter; under a known one it has to fit,
and the name may not stand again. -/
inductive Gathers (fits : Field σ → σ → Tree → σ → Prop) (fields : List (Field σ)) :
    σ → List (Option String × Tree) → σ → Prop where
  | nil (draft : σ) : Gathers fits fields draft [] draft
  | skipped {draft last : σ} {name : String} {tree : Tree} {members : List (Option String × Tree)}
      (unknown : fields.find? (·.name == name) = none)
      (onward : Gathers fits fields draft members last) :
      Gathers fits fields draft ((some name, tree) :: members) last
  | taken {field : Field σ} {draft next last : σ} {name : String} {tree : Tree}
      {members : List (Option String × Tree)}
      (known : fields.find? (·.name == name) = some field) (fresh : field.isSet draft = false)
      (fit : fits field draft tree next) (onward : Gathers fits fields next members last) :
      Gathers fits fields draft ((some name, tree) :: members) last

/-- What becomes of a draft with the items of a list, which are the members in their declared
order. -/
inductive Fills (fits : Field σ → σ → Tree → σ → Prop) : List (Field σ) → σ → List Tree → σ → Prop
    where
  | ended {fields : List (Field σ)} (lack : fields.all (·.mayLack) = true) (draft : σ) :
      Fills fits fields draft [] draft
  | next {field : Field σ} {fields : List (Field σ)} {draft next last : σ} {tree : Tree}
      {trees : List Tree} (fit : fits field draft tree next)
      (onward : Fills fits fields next trees last) :
      Fills fits (field :: fields) draft (tree :: trees) last

/-- The value of a record that a tree says. -/
inductive RecordSays (fits : Field σ → σ → Tree → σ → Prop) (record : Record σ α) :
    Tree → α → Prop where
  | list {trees : List Tree} {last : σ} {value : α}
      (fills : Fills fits record.fields record.draft trees last)
      (finished : record.finish last = some value) : RecordSays fits record (.list trees) value
  | object {members : List (Option String × Tree)} {last : σ} {value : α}
      (gathers : Gathers fits record.fields record.draft members last)
      (finished : record.finish last = some value) :
      RecordSays fits record (.object members) value

theorem readMark_of_blanks {mark : UInt8} (noSpace : isSpace mark = false) {input rest : Bytes}
    (blanks : Blanks input (mark :: rest)) : readMark mark input = .ok rest := by
  rw [readMark, blanks.skipSpace noSpace]
  exact if_pos rfl

theorem blanks_of_readMark {mark : UInt8} {input rest : Bytes}
    (taken : readMark mark input = .ok rest) : Blanks input (mark :: rest) := by
  unfold readMark at taken
  split at taken
  case h_1 => cases taken
  case h_2 byte between found =>
    split at taken
    case isTrue same =>
      cases taken
      rw [same] at found
      exact blanks_of_skipSpace found
    case isFalse => cases taken

theorem nextMember_closeObject {isFirst : Bool} {input rest : Bytes}
    (blanks : Blanks input (closeObject :: rest)) :
    nextMember isFirst input = .ok (.closed rest) := by
  rw [nextMember, blanks.skipSpace rfl]
  rfl

theorem nextMember_onward {isFirst : Bool} {input atMember inName : Bytes}
    (onward : Onward isFirst input atMember) (blanks : Blanks atMember (quote :: inName)) :
    nextMember isFirst input = .ok (.item inName) := by
  cases isFirst with
  | true =>
      have same : input = atMember := onward
      subst same
      rw [nextMember, blanks.skipSpace rfl]
      rfl
  | false =>
      have commaBlanks : Blanks input (comma :: atMember) := onward
      rw [nextMember, commaBlanks.skipSpace rfl]
      dsimp only
      rw [if_neg (by decide), if_neg (by decide), if_pos rfl, blanks.skipSpace rfl]
      rfl

theorem nextMember_eq_closed {isFirst : Bool} {input rest : Bytes}
    (next : nextMember isFirst input = .ok (.closed rest)) :
    Blanks input (closeObject :: rest) := by
  unfold nextMember at next
  split at next
  case h_1 => cases next
  case h_2 byte between found =>
    split at next
    case isTrue isClosed =>
      cases next
      rw [isClosed] at found
      exact blanks_of_skipSpace found
    case isFalse =>
      repeat' split at next
      all_goals cases next

theorem nextMember_eq_item {isFirst : Bool} {input inName : Bytes}
    (next : nextMember isFirst input = .ok (.item inName)) :
    ∃ atMember, Onward isFirst input atMember ∧ Blanks atMember (quote :: inName) := by
  unfold nextMember at next
  split at next
  case h_1 => cases next
  case h_2 byte between found =>
    have blanks := blanks_of_skipSpace found
    split at next
    case isTrue => cases next
    case isFalse =>
      split at next
      case isTrue isFirst =>
        subst isFirst
        split at next
        case isTrue isQuote =>
          cases next
          rw [isQuote] at blanks
          exact ⟨input, rfl, blanks⟩
        case isFalse => cases next
      case isFalse isLater =>
        rw [Bool.not_eq_true] at isLater
        subst isLater
        split at next
        case isTrue isComma =>
          subst isComma
          split at next
          case h_1 => cases next
          case h_2 first others foundFirst =>
            split at next
            case isTrue isQuote =>
              cases next
              rw [isQuote] at foundFirst
              exact ⟨between, blanks, blanks_of_skipSpace foundFirst⟩
            case isFalse => cases next
        case isFalse => cases next

section

variable {fits : Field σ → σ → Tree → σ → Prop} {fields : List (Field σ)}

section

variable (takes : ∀ field ∈ fields, ∀ draft tree next, fits field draft tree next →
  Takes (field.read draft) tree next)
include takes

theorem Gathers.readMembers {draft last : σ} {members : List (Option String × Tree)}
    (gathers : Gathers fits fields draft members last) {isFirst : Bool} {input rest : Bytes}
    (spelled : Spells (.members isFirst members) input rest) (fuel : Nat)
    (enough : members.length < fuel) :
    readMembers fields fuel isFirst draft input = .ok (last, rest) := by
  induction gathers generalizing isFirst input fuel with
  | nil draft =>
      obtain ⟨left, rfl⟩ : ∃ left, fuel = left + 1 := ⟨fuel - 1, by omega⟩
      cases spelled with
      | closedObject blanks => rw [Json.readMembers, nextMember_closeObject blanks, ok_bind]
  | skipped unknown _ inductionHypothesis =>
      rw [List.length_cons] at enough
      obtain ⟨left, rfl⟩ : ∃ left, fuel = left + 1 := ⟨fuel - 1, by omega⟩
      cases spelled with
      | member onward blanks named meant colonBlanks value others =>
          have read := readQuoted_eq_ok_iff.mpr ⟨_, named, meant⟩
          simp only [Json.readMembers, nextMember_onward onward blanks, read, unknown,
            readMark_of_blanks rfl colonBlanks, skipValue_of_spells value others.ends_members,
            ok_bind]
          exact inductionHypothesis others left (by omega)
  | taken known fresh fit _ inductionHypothesis =>
      rw [List.length_cons] at enough
      obtain ⟨left, rfl⟩ : ∃ left, fuel = left + 1 := ⟨fuel - 1, by omega⟩
      cases spelled with
      | member onward blanks named meant colonBlanks value others =>
          have read := readQuoted_eq_ok_iff.mpr ⟨_, named, meant⟩
          have taken := takes _ (List.mem_of_find?_eq_some known) _ _ _ fit _ _ value
            others.ends_members
          simp only [Json.readMembers, nextMember_onward onward blanks, read, known, fresh,
            readMark_of_blanks rfl colonBlanks, taken, ok_bind, Bool.false_eq_true, if_false]
          exact inductionHypothesis others left (by omega)

theorem Fills.readPositions {draft last : σ} {trees : List Tree}
    (fills : Fills fits fields draft trees last) {isFirst : Bool} {input rest : Bytes}
    (spelled : Spells (.items isFirst trees) input rest) :
    readPositions fields isFirst draft input = .ok (last, rest) := by
  induction fills generalizing isFirst input with
  | @ended fields lack draft =>
      cases spelled with
      | closedList blanks =>
          cases fields with
          | nil => simp only [Json.readPositions, readMark_of_blanks rfl blanks, ok_bind]
          | cons field fields =>
              simp only [Json.readPositions, nextItem_closeList blanks, ok_bind, if_pos lack]
  | @next field fields draft next last tree trees fit _ inductionHypothesis =>
      cases spelled with
      | item onward value others =>
          obtain ⟨byte, bytes, found, opens, bare⟩ := value.begins
          have taken := takes field List.mem_cons_self _ _ _ fit _ _ bare others.ends_items
          simp only [Json.readPositions, nextItem_onward onward found (opens.ne (.inl rfl)),
            taken, ok_bind]
          exact inductionHypothesis
            (fun other member => takes other (List.mem_cons_of_mem _ member)) others

end

section

variable (finds : ∀ field ∈ fields, ∀ draft, Finds (field.read draft) (fits field draft))
include finds

theorem exists_gathers {fuel : Nat} {isFirst : Bool} {draft last : σ} {input rest : Bytes}
    (taken : readMembers fields fuel isFirst draft input = .ok (last, rest)) :
    ∃ members, Spells (.members isFirst members) input rest ∧
      Gathers fits fields draft members last := by
  induction fuel generalizing isFirst draft input with
  | zero => cases taken
  | succ fuel inductionHypothesis =>
      rw [Json.readMembers] at taken
      obtain ⟨step, next, taken⟩ := bind_eq_ok_iff.mp taken
      cases step with
      | closed behind =>
          cases taken
          exact ⟨[], .closedObject (nextMember_eq_closed next), .nil _⟩
      | item inName =>
          obtain ⟨atMember, onward, blanks⟩ := nextMember_eq_item next
          obtain ⟨⟨name, behindName⟩, read, taken⟩ := bind_eq_ok_iff.mp taken
          obtain ⟨pieces, named, meant⟩ := readQuoted_eq_ok_iff.mp read
          dsimp only at taken
          split at taken
          case h_1 unknown =>
            obtain ⟨atValue, colonTaken, taken⟩ := bind_eq_ok_iff.mp taken
            obtain ⟨behind, skipped, taken⟩ := bind_eq_ok_iff.mp taken
            obtain ⟨tree, value⟩ := exists_spells_of_skipValue skipped
            obtain ⟨members, others, gathers⟩ := inductionHypothesis taken
            exact ⟨_, .member onward blanks named meant (blanks_of_readMark colonTaken) value others,
              .skipped unknown gathers⟩
          case h_2 field known =>
            split at taken
            case isTrue => cases taken
            case isFalse fresh =>
              obtain ⟨atValue, colonTaken, taken⟩ := bind_eq_ok_iff.mp taken
              obtain ⟨⟨draft, behind⟩, readField, taken⟩ := bind_eq_ok_iff.mp taken
              obtain ⟨tree, value, fit⟩ :=
                finds field (List.mem_of_find?_eq_some known) _ _ _ _ readField
              obtain ⟨members, others, gathers⟩ := inductionHypothesis taken
              exact ⟨_,
                .member onward blanks named meant (blanks_of_readMark colonTaken) value others,
                .taken known (Bool.eq_false_iff.mpr fresh) fit gathers⟩

theorem exists_fills {isFirst : Bool} {draft last : σ} {input rest : Bytes}
    (taken : readPositions fields isFirst draft input = .ok (last, rest)) :
    ∃ trees, Spells (.items isFirst trees) input rest ∧ Fills fits fields draft trees last := by
  induction fields generalizing isFirst draft input with
  | nil =>
      obtain ⟨behind, marked, same⟩ := bind_eq_ok_iff.mp taken
      cases same
      exact ⟨[], .closedList (blanks_of_readMark marked), .ended rfl _⟩
  | cons field fields inductionHypothesis =>
      rw [Json.readPositions] at taken
      obtain ⟨step, next, taken⟩ := bind_eq_ok_iff.mp taken
      cases step with
      | closed behind =>
          dsimp only at taken
          split at taken
          case isTrue lack =>
            cases taken
            exact ⟨[], .closedList (nextItem_eq_closed next), .ended lack _⟩
          case isFalse => cases taken
      | item atItem =>
          obtain ⟨⟨between, behind⟩, readField, taken⟩ := bind_eq_ok_iff.mp taken
          obtain ⟨within, onward, blanks⟩ := nextItem_eq_item next
          obtain ⟨tree, value, fit⟩ := finds field List.mem_cons_self _ _ _ _ readField
          obtain ⟨trees, others, fills⟩ := inductionHypothesis
            (fun other member => finds other (List.mem_cons_of_mem _ member)) taken
          exact ⟨_, .item onward (value.after_blanks blanks) others, .next fit fills⟩

end

end

section

variable {fits : Field σ → σ → Tree → σ → Prop} {record : Record σ α}

theorem RecordSays.takes
    (takes : ∀ field ∈ record.fields, ∀ draft tree next, fits field draft tree next →
      Takes (field.read draft) tree next)
    {tree : Tree} {value : α} (meant : RecordSays fits record tree value) :
    Takes (readRecord record) tree value := by
  intro input rest spelled ends
  cases meant with
  | list fills finished =>
      cases spelled with
      | list blanks items =>
          simp only [readRecord, blanks.skipSpace rfl, if_pos, fills.readPositions takes items,
            ok_bind, finished]
  | object gathers finished =>
      cases spelled with
      | @object _ _ between _ blanks inner =>
          have enough := inner.size_le
          simp only [Phrase.size] at enough
          have read := gathers.readMembers takes inner (between.length + 1) (by omega)
          have other : openObject ≠ openList := by decide
          simp only [readRecord, blanks.skipSpace rfl, if_neg other, if_pos, read, ok_bind,
            finished]

theorem readRecord_finds
    (finds : ∀ field ∈ record.fields, ∀ draft, Finds (field.read draft) (fits field draft)) :
    Finds (readRecord record) (RecordSays fits record) := by
  intro input value rest taken
  unfold readRecord at taken
  split at taken
  case h_1 => cases taken
  case h_2 byte between found =>
    have blanks := blanks_of_skipSpace found
    split at taken
    case isTrue isList =>
      subst isList
      obtain ⟨⟨last, behind⟩, read, onward⟩ := bind_eq_ok_iff.mp taken
      dsimp only at onward
      split at onward
      case h_1 finished =>
        cases onward
        obtain ⟨trees, items, fills⟩ := exists_fills finds read
        exact ⟨_, .list blanks items, .list fills finished⟩
      case h_2 => cases onward
    case isFalse =>
      split at taken
      case isTrue isObject =>
        subst isObject
        obtain ⟨⟨last, behind⟩, read, onward⟩ := bind_eq_ok_iff.mp taken
        dsimp only at onward
        split at onward
        case h_1 finished =>
          cases onward
          obtain ⟨members, inner, gathers⟩ := exists_gathers finds read
          exact ⟨_, .object blanks inner, .object gathers finished⟩
        case h_2 => cases onward
      case isFalse => cases taken

end

end PromptRelay.Json
