import PromptRelay.Proofs.Json.Objects
import PromptRelay.Proofs.Wire.RoundTrip

/-!
Contract: a message is read by its members, however its object is laid out.

Owns:
- the members that an object of a message may have, and the texts that spell them;
- that a message is read from any object with one role, one content and at most one name;
- that an object without a role or a content, or with two of the same kind, is refused.

Does not own: members whose values are of another kind than the wanted one.

Each of the three kinds of members fills a place of its own in the draft, and no other one. What
the draft is filled with depends on the members of each kind only, not on the order among kinds
and not on what stands between them.
-/

namespace PromptRelay

open Json
open Text (Bytes utf8)

/-! ## Members -/

/-- A member of an object that a message is read from. -/
inductive MessageMember where
  | role (value : Role)
  | name (value : Option String)
  | content (value : String)
  /-- A member that a message does not have, with any value. -/
  | other (label : String) (isOther : label ∉ ["role", "name", "content"])

namespace MessageMember

def label : MessageMember → String
  | .role _ => "role"
  | .name _ => "name"
  | .content _ => "content"
  | .other label _ => label

/-- The texts that spell the value of a member. -/
def Spells : MessageMember → List Char → Prop
  | .role value, text => SpellsString text value.name
  | .name none, text => text = writeNull
  | .name (some value), text => SpellsString text value
  | .content value, text => SpellsString text value
  | .other _ _, text => WellFormed .value text

def role? : MessageMember → Option Role
  | .role value => some value
  | _ => none

def name? : MessageMember → Option (Option String)
  | .name value => some value
  | _ => none

def content? : MessageMember → Option String
  | .content value => some value
  | _ => none

end MessageMember

/-- The object of the members, with blanks around it. -/
inductive MessageText (members : List MessageMember) : List Char → Prop where
  | object {before text after : List Char} (beforeIsGap : IsGap before)
      (spelled : ObjectText MessageMember.label MessageMember.Spells true members text)
      (afterIsGap : IsGap after) : MessageText members (before ++ '\x7b' :: (text ++ after))

/-- The members have one role, one content and at most one name, wherever among the others. -/
structure Tells (members : List MessageMember) (message : Message) : Prop where
  role : members.filterMap MessageMember.role? = [message.role]
  name : members.filterMap MessageMember.name? = [message.name] ∨
    members.filterMap MessageMember.name? = [] ∧ message.name = none
  content : members.filterMap MessageMember.content? = [message.content]

/-- The members lack a role or a content, or there are two of the same kind. -/
inductive TellsNothing (members : List MessageMember) : Prop where
  | noRole (missing : members.filterMap MessageMember.role? = [])
  | noContent (missing : members.filterMap MessageMember.content? = [])
  | roles (several : 1 < (members.filterMap MessageMember.role?).length)
  | names (several : 1 < (members.filterMap MessageMember.name?).length)
  | contents (several : 1 < (members.filterMap MessageMember.content?).length)

/-! ## Drafts -/

/-- Fills a place that is still empty. -/
def fill (place : Option α) (value : α) : Option (Option α) :=
  if place.isSome = true then none else some (some value)

/-- Two values are too many, whichever they are. -/
theorem fill_twice {found : List α} (several : 1 < found.length) :
    found.foldlM fill (none : Option α) = none := by
  match found, several with
  | _ :: _ :: _, _ => rfl

/-- Puts a member into its place of a draft. -/
def MessageDraft.put (draft : MessageDraft) : MessageMember → Option MessageDraft
  | .role value => (fill draft.role value).bind fun role => some { draft with role }
  | .name value => (fill draft.name value).bind fun name => some { draft with name }
  | .content value => (fill draft.content value).bind fun content => some { draft with content }
  | .other _ _ => some draft

theorem fill_bind (place : Option α) (value : α) (update : Option α → σ) :
    ((fill place value).bind fun filled => some (update filled)) =
      if place.isSome = true then none else some (update (some value)) := by
  cases place <;> rfl

/-- Every member is read as it is put. -/
theorem memberRead_put (draft : MessageDraft) (member : MessageMember) (text : List Char)
    (spelled : member.Spells text) :
    MemberRead messageRecord.fields draft member.label text (draft.put member) := by
  cases member with
  | role value =>
      have field : messageRecord.fields.find? (·.name == "role") = some messageRecord.fields[0] :=
        rfl
      have known : ([("system", .system), ("user", .user), ("assistant", .assistant)] :
          List (String × Role)).lookup value.name = some value := by
        cases value <;> decide
      rw [MessageDraft.put, fill_bind]
      exact memberRead_field (fun role => ({ draft with role := some role } : MessageDraft)) field
        rfl (readChoice_passesGaps _) (readChoice_spelled spelled known)
  | name value =>
      have field : messageRecord.fields.find? (·.name == "name") = some messageRecord.fields[1] :=
        rfl
      have reads : Reads (readOptional readString) text value := by
        cases value with
        | none =>
            have isNull : text = writeNull := spelled
            rw [isNull]
            exact readOptional_none
        | some value => exact readOptional_spelled spelled
      rw [MessageDraft.put, fill_bind]
      exact memberRead_field (fun name => ({ draft with name := some name } : MessageDraft)) field
        rfl (readOptional_passesGaps readString) reads
  | content value =>
      have field : messageRecord.fields.find? (·.name == "content") =
          some messageRecord.fields[2] := rfl
      rw [MessageDraft.put, fill_bind]
      exact memberRead_field
        (fun content => ({ draft with content := some content } : MessageDraft)) field rfl
        readString_passesGaps (readString_spelled spelled)
  | other label isOther =>
      refine .skipped ?_ spelled
      simp only [List.mem_cons, List.not_mem_nil, or_false, not_or] at isOther
      obtain ⟨noRole, noName, noContent⟩ := isOther
      simp [messageRecord, MessageMember.label, Ne.symm noRole, Ne.symm noName, Ne.symm noContent]

/-- The places are filled independently of each other, and of what else there is. -/
theorem foldlM_put (draft : MessageDraft) (members : List MessageMember) :
    members.foldlM MessageDraft.put draft =
      ((members.filterMap MessageMember.role?).foldlM fill draft.role).bind fun role =>
        ((members.filterMap MessageMember.name?).foldlM fill draft.name).bind fun name =>
          ((members.filterMap MessageMember.content?).foldlM fill draft.content).bind fun content =>
            some { role, name, content } := by
  induction members generalizing draft with
  | nil => rfl
  | cons member members inductionHypothesis =>
      rw [List.foldlM_cons]
      cases member <;>
        simp only [MessageDraft.put, List.filterMap_cons, MessageMember.role?, MessageMember.name?,
          MessageMember.content?, List.foldlM_cons, Option.bind_eq_bind, Option.bind_assoc,
          Option.bind_some, inductionHypothesis]
      -- A later place is filled here before those that the result names first.
      case name => rw [Option.bind_comm]
      case content =>
        rw [Option.bind_comm]
        congr 1
        funext role
        rw [Option.bind_comm]

/-! ## Payloads -/

/-- What the members amount to, if they do. -/
def amount (members : List MessageMember) : Option Message :=
  (members.foldlM MessageDraft.put messageRecord.draft).bind messageRecord.finish

theorem amount_of_tells {members : List MessageMember} {message : Message}
    (tells : Tells members message) : amount members = some message := by
  rw [amount, foldlM_put, tells.role, tells.content]
  obtain ⟨role, name, content⟩ := message
  rcases tells.name with oneName | ⟨noName, isNone⟩
  · rw [oneName]
    rfl
  · rw [noName]
    change name = none at isNone
    rw [isNone]
    rfl

theorem amount_of_tellsNothing {members : List MessageMember} (nothing : TellsNothing members) :
    amount members = none := by
  rw [amount, foldlM_put, Option.bind_assoc, Option.bind_eq_none_iff]
  intro role isRole
  rw [Option.bind_assoc, Option.bind_eq_none_iff]
  intro name isName
  rw [Option.bind_assoc, Option.bind_eq_none_iff]
  intro content isContent
  rw [Option.bind_some]
  cases nothing with
  | noRole missing =>
      rw [missing] at isRole
      cases isRole
      rfl
  | noContent missing =>
      rw [missing] at isContent
      cases isContent
      cases role <;> rfl
  | roles several =>
      have refused := fill_twice several
      exact absurd (isRole.symm.trans refused) (Option.some_ne_none role)
  | names several =>
      have refused := fill_twice several
      exact absurd (isName.symm.trans refused) (Option.some_ne_none name)
  | contents several =>
      have refused := fill_twice several
      exact absurd (isContent.symm.trans refused) (Option.some_ne_none content)

theorem readWhole_messageText {members : List MessageMember} {text : List Char}
    (laidOut : MessageText members text) :
    readWhole readMessage (utf8 text) = goOn (amount members) .ok := by
  cases laidOut with
  | @object before text after beforeIsGap spelled afterIsGap =>
      have read := readRecord_objectText memberRead_put beforeIsGap spelled (utf8 after)
      have bytes : utf8 (before ++ '\x7b' :: (text ++ after)) =
          utf8 (before ++ '\x7b' :: text) ++ utf8 after := by
        rw [← Text.utf8_append, List.append_assoc]
        rfl
      have nothing : skipSpace (utf8 after) = [] := by
        have passed := skipSpace_gap afterIsGap []
        rwa [List.append_nil] at passed
      rw [bytes]
      change readMessage _ = goOn (amount members) _ at read
      cases outcome : amount members with
      | none =>
          rw [outcome] at read
          exact readWhole_of_fault read
      | some message =>
          rw [outcome] at read
          rw [readWhole_of_taken read, nothing]
          rfl

/-- An object with one role, one content and at most one name is read as that message, in
whichever order they are, with whichever blanks between them, and whatever other members there
are. Without a role or a content, or with two of a kind, it is refused as no message. -/
theorem decode_messageText {members : List MessageMember} {text : List Char}
    (laidOut : MessageText members text) :
    (∀ message, Tells members message → decode Message (utf8 text) = .ok message) ∧
      (TellsNothing members → decode Message (utf8 text) = .error ⟨.mismatched⟩) := by
  have decoded : decode Message (utf8 text) =
      (goOn (amount members) .ok).mapError WireError.mk := by
    rw [← readWhole_messageText laidOut]
    rfl
  refine ⟨?_, ?_⟩
  · intro message tells
    rw [decoded, amount_of_tells tells]
    rfl
  · intro nothing
    rw [decoded, amount_of_tellsNothing nothing]
    rfl

/-- Blanks in places, an escape in the content, and a list with a number and an object before the
role; and two roles. -/
theorem decode_messageText_shuffled :
    decode Message (utf8
        "\x7b \"content\":\"h\\u0069\",\"x\":[-1.5e3,\x7b\x7d],\"role\":\"user\"\x7d\n".toList) =
      .ok { role := .user, content := "hi" } ∧
    decode Message (utf8
        "\x7b\"role\":\"user\",\"role\":\"user\",\"content\":\"hi\"\x7d".toList) =
      .error ⟨.mismatched⟩ := by
  have digits (c : Char) (isDigit : c ∈ decimalDigits) : IsDigits [c] :=
    ⟨List.cons_ne_nil c [], fun other member => by rwa [List.mem_singleton.mp member]⟩
  have number : IsNumber (['-'] ++ (['1'] ++ (['.', '5'] ++ 'e' :: ([] ++ ['3'])))) :=
    .parts (.inr rfl) (.digits (by decide) (digits '1' (by decide)))
      (.some (digits '5' (by decide))) (.some (.inl rfl) (.inl rfl) (digits '3' (by decide)))
  have list : WellFormed .value _ := .bracketed .list (.item (.first isGap_nil) (.number number)
    (.item lead_comma (.bracketed .object (.closed .object isGap_nil)) (.closed .list isGap_nil)))
  have escaped : SpellsString
      ('"' :: (['h'] ++ ('\\' :: 'u' :: ['0', '0', '6', '9'] ++ []) ++ ['"'])) "hi" := by
    have zero : IsHexDigit '0' 0 := .inl rfl
    have six : IsHexDigit '6' 6 := .inl rfl
    have nine : IsHexDigit '9' 9 := .inl rfl
    have unit : SpellsUnit ['0', '0', '6', '9'] 'i'.toNat := .digits zero zero six nine
    have letter : SpellsChar ('\\' :: 'u' :: ['0', '0', '6', '9']) 'i' := .unit unit (by decide)
    have plain : SpellsChar ['h'] 'h' := .plain (by decide) (by decide) (by decide)
    exact .quoted (.cons plain (.cons letter .nil))
  have named := spellsString_quoted
  have laidOut : MessageText [.content "hi", .other "x" (by decide), .role .user] _ :=
    .object isGap_nil (.member (.first isGap_space) (named "content") isGap_nil isGap_nil escaped
      (.member lead_comma (named "x") isGap_nil isGap_nil list
        (.member lead_comma (named "role") isGap_nil isGap_nil (named "user")
          (.closed isGap_nil)))) (isGap_newLine 0)
  have twice : MessageText [.role .user, .role .user, .content "hi"] _ :=
    .object isGap_nil (.member (.first isGap_nil) (named "role") isGap_nil isGap_nil (named "user")
      (.member lead_comma (named "role") isGap_nil isGap_nil (named "user")
        (.member lead_comma (named "content") isGap_nil isGap_nil (named "hi")
          (.closed isGap_nil)))) isGap_nil
  refine ⟨?_, ?_⟩
  · exact (decode_messageText laidOut).1 _ ⟨rfl, .inr ⟨rfl, rfl⟩, rfl⟩
  · exact (decode_messageText twice).2 (.roles (by decide))

end PromptRelay
