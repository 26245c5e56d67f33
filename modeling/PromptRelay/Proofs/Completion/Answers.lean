import PromptRelay.Completion.Answer
import PromptRelay.Proofs.Json.Fitting
import PromptRelay.Proofs.Text.Lossy

/-!
Contract: what each answer of a completion backend means.

Owns:
- the content that a document says, for the answers of each backend;
- that reading an answer finds this content, and nothing where there is no such document;
- the meaning of every answer by its status and its body.

Does not own: what is asked, and whether there is an answer at all.
-/

namespace PromptRelay.Completion

open Json Text
open Result (bind_eq_ok_iff)

/-! ## Records with one known member -/

/-- What stands under a name, if anything does. Every name has to be a text, and this one may
stand once at most; values under other names do not matter. -/
def member? (name : String) (members : List (Option String × Tree)) : Option (Option Tree) :=
  if members.all (·.1.isSome) then
    match members.filter (·.1 == some name) with
    | [] => some none
    | [(_, tree)] => some (some tree)
    | _ => none
  else
    none

/-- A record with one known member: an object, or a list of nothing but that member. Only some
records may lack it in a list. -/
def single? (name : String) (mayLack : Bool) (fit : Tree → Option α) : Tree → Option (Option α)
  | .object members => (member? name members).bind (·.mapM fit)
  | .list [] => if mayLack then some none else none
  | .list [tree] => (fit tree).map some
  | _ => none

section

variable {name : String} {tree : Tree} {members : List (Option String × Tree)}

theorem member?_nil : member? name [] = some none := rfl

theorem member?_other {other : String} (different : other ≠ name) :
    member? name ((some other, tree) :: members) = member? name members := by
  have unlike : (some other == some name) = false := by simpa using different
  simp only [member?, List.all_cons, Option.isSome_some, Bool.true_and, List.filter_cons, unlike,
    Bool.false_eq_true, if_false]

/-- Where a name has stood, it may not stand again. -/
theorem member?_same_eq_some_iff {found : Option Tree} :
    member? name ((some name, tree) :: members) = some found ↔
      found = some tree ∧ member? name members = some none := by
  simp only [member?, List.all_cons, Option.isSome_some, Bool.true_and, beq_self_eq_true,
    List.filter_cons_of_pos]
  split
  · cases members.filter (·.1 == some name) with
    | nil => simp [eq_comm]
    | cons first others => cases others <;> simp
  · simp

end

section

variable {fit : Tree → Option α}

/-- What the field of a known member puts into the draft. -/
def Fits (fit : Tree → Option α) (_ : Json.Field (Option α)) (_ : Option α) (tree : Tree)
    (next : Option α) : Prop :=
  (fit tree).map some = some next

variable {name : String} {read : Reader α} {mayLack : Bool}

theorem find?_singleMember (other : String) :
    (singleMember name read mayLack).fields.find? (·.name == other) =
      if name = other then (singleMember name read mayLack).fields.head? else none := by
  by_cases same : name = other <;> simp [singleMember, same]

theorem find?_singleMember_eq_none_iff {other : String} :
    (singleMember name read mayLack).fields.find? (·.name == other) = none ↔ other ≠ name := by
  rw [find?_singleMember]
  split
  case isTrue same => exact ⟨nofun, fun different => absurd same.symm different⟩
  case isFalse different => exact ⟨fun _ => Ne.symm different, fun _ => rfl⟩

variable {members : List (Option String × Tree)} {draft last : Option α}

/-- With a value in the draft already, the name does not stand again. -/
theorem lacks_of_gathers
    (gathers : Gathers (Fits fit) (singleMember name read mayLack).fields draft members last)
    {value : α} (given : draft = some value) : last = some value ∧ member? name members = some none := by
  induction gathers with
  | nil draft => exact ⟨given, rfl⟩
  | skipped unknown _ inductionHypothesis =>
      rw [member?_other (find?_singleMember_eq_none_iff.mp unknown)]
      exact inductionHypothesis given
  | taken known fresh _ _ _ =>
      rw [find?_singleMember] at known
      split at known
      · cases known
        rw [given] at fresh
        cases fresh
      · cases known

theorem gathers_of_lacks (lacks : member? name members = some none) :
    Gathers (Fits fit) (singleMember name read mayLack).fields draft members draft := by
  induction members with
  | nil => exact .nil _
  | cons member members inductionHypothesis =>
      obtain ⟨_ | other, tree⟩ := member
      · cases lacks
      · by_cases same : other = name
        · subst same
          cases (member?_same_eq_some_iff.mp lacks).1
        · rw [member?_other same] at lacks
          exact .skipped (find?_singleMember_eq_none_iff.mpr same) (inductionHypothesis lacks)

theorem member?_of_gathers
    (gathers : Gathers (Fits fit) (singleMember name read mayLack).fields draft members last)
    (nothing : draft = none) : (member? name members).bind (·.mapM fit) = some last := by
  induction gathers with
  | nil draft =>
      rw [member?_nil, nothing]
      rfl
  | skipped unknown _ inductionHypothesis =>
      rw [member?_other (find?_singleMember_eq_none_iff.mp unknown)]
      exact inductionHypothesis nothing
  | taken known _ fits onward _ =>
      rw [find?_singleMember] at known
      split at known
      case isTrue same =>
        subst same
        obtain ⟨value, fitsValue, given⟩ := Option.map_eq_some_iff.mp fits
        obtain ⟨isLast, lacks⟩ := lacks_of_gathers onward given.symm
        rw [member?_same_eq_some_iff.mpr ⟨rfl, lacks⟩, Option.bind_some, isLast]
        simpa using fitsValue
      case isFalse => cases known

theorem gathers_of_member? (found : (member? name members).bind (·.mapM fit) = some last) :
    Gathers (Fits fit) (singleMember name read mayLack).fields none members last := by
  induction members with
  | nil =>
      cases found
      exact .nil _
  | cons member members inductionHypothesis =>
      obtain ⟨_ | other, tree⟩ := member
      · cases found
      · by_cases same : other = name
        · subst same
          obtain ⟨stands, isMember, fits⟩ := Option.bind_eq_some_iff.mp found
          obtain ⟨rfl, lacks⟩ := member?_same_eq_some_iff.mp isMember
          have fitsValue : (fit tree).map some = some last := by simpa using fits
          have known : (singleMember other read mayLack).fields.find? (·.name == other) =
              (singleMember other read mayLack).fields.head? := by
            rw [find?_singleMember, if_pos rfl]
          exact .taken known rfl fitsValue (gathers_of_lacks lacks)
        · rw [member?_other same] at found
          exact .skipped (find?_singleMember_eq_none_iff.mpr same) (inductionHypothesis found)

theorem recordSays_singleMember_iff {tree : Tree} {value : Option α} :
    RecordSays (Fits fit) (singleMember name read mayLack) tree value ↔
      single? name mayLack fit tree = some value := by
  constructor
  · rintro (⟨fills, finished⟩ | ⟨gathers, finished⟩)
    · cases finished
      cases fills with
      | ended lack =>
          have may : mayLack = true := by simpa [singleMember] using lack
          exact if_pos may
      | next fits onward =>
          cases onward
          exact fits
    · cases finished
      exact member?_of_gathers gathers rfl
  · intro meant
    cases tree with
    | object members => exact .object (gathers_of_member? meant) rfl
    | list items =>
        match items with
        | [] =>
            have allowed : (if mayLack then some none else none) = some value := meant
            split at allowed
            case isTrue may =>
              cases allowed
              exact .list (.ended (by simpa [singleMember] using may) _) rfl
            case isFalse => cases allowed
        | [tree] => exact .list (.next meant (.ended rfl _)) rfl
        | _ :: _ :: _ => cases meant
    | null | boolean | number | text => cases meant

theorem decides_singleMember (decides : Decides read fit) :
    Decides (readRecord (singleMember name read mayLack)) (single? name mayLack fit) where
  takes tree value meant := by
    refine (recordSays_singleMember_iff.mpr meant).takes fun field member _ tree next fits => ?_
    obtain rfl := List.mem_singleton.mp member
    exact (decides.map some).takes tree next fits
  finds input value rest taken := by
    have finds : ∀ field ∈ (singleMember name read mayLack).fields, ∀ draft,
        Finds (field.read draft) (Fits fit field draft) := by
      intro field member _
      obtain rfl := List.mem_singleton.mp member
      exact (decides.map some).finds
    obtain ⟨tree, spelled, meant⟩ := readRecord_finds finds input value rest taken
    exact ⟨tree, spelled, recordSays_singleMember_iff.mp meant⟩

end

/-! ## Contents -/

/-- The content of a message, if it has one: a string under `content`. That member may be
missing or `null`. -/
def messageContent? (tree : Tree) : Option (Option String) :=
  (single? "content" false (Tree.optional? Tree.text?) tree).map Option.join

/-- The content of the message that a record holds, if it holds one with a content: a message
under `message`. That member may be missing or `null`. -/
def heldContent? (tree : Tree) : Option (Option String) :=
  (single? "message" false (Tree.optional? messageContent?) tree).map (·.join.join)

/-- The content of the first choice, if there is one: a list of records that hold messages under
`choices`. That member may be missing. All choices have to be such records. -/
def firstContent? (tree : Tree) : Option (Option String) :=
  (single? "choices" true (Tree.list? heldContent?) tree).map fun choices =>
    (choices.getD []).head?.join

/-- The content that a document says in an answer, if it has the shape of one. -/
def content? : Backend → Tree → Option (Option String)
  | .ollama .. => heldContent?
  | .openAi .. => firstContent?

theorem decides_readContent : Decides readContent messageContent? :=
  (decides_singleMember decides_readString.readOptional).map Option.join

theorem decides_readHolder : Decides readHolder heldContent? :=
  (decides_singleMember decides_readContent.readOptional).map (·.join.join)

theorem decides_readChoices : Decides readChoices firstContent? :=
  (decides_singleMember decides_readHolder.readList).map fun choices => (choices.getD []).head?.join

/-- Choices may be missing, but neither they nor one of them may be `null`. -/
example : firstContent? (.object []) = some none ∧
    firstContent? (.object [(some "choices", .null)]) = none ∧
    firstContent? (.object [(some "choices", .list [.object [], .null])]) = none :=
  ⟨rfl, rfl, rfl⟩

theorem decides_contentReader (backend : Backend) :
    Decides (contentReader backend) (content? backend) := by
  cases backend with
  | ollama => exact decides_readHolder
  | openAi => exact decides_readChoices

/-! ## Answers -/

/-- The text that an error tells of a body: the body as it is, if it is a text. Without a body
there is nothing to tell. -/
inductive Reports : Option Bytes → String → Prop where
  | text (text : String) : Reports (some (bytes text)) text
  | lossy {octets : Bytes} (noText : ofBytes? octets = none) :
      Reports (some octets) (ofBytesLossy octets)
  | cutShort : Reports none ""

/-- What an answer means. A status is decisive unless it is successful; then the body has to be
one document of the shape of an answer, and its content is what a message is made of. -/
inductive Means (backend : Backend) (response : Response) :
    Except CompletionError (Option Message) → Prop where
  | refused (status : response.status = 401 ∨ response.status = 403) :
      Means backend response (.error (.authentication backend.name response.status))
  | unsuccessful (outside : response.status < 200 ∨ 300 ≤ response.status)
      (other : response.status ≠ 401 ∧ response.status ≠ 403) {body : String}
      (reported : Reports response.body body) :
      Means backend response (.error (.unsuccessful backend.name response.status body))
  | malformed (successful : 200 ≤ response.status ∧ response.status < 300)
      (shapeless : ∀ body ∈ response.body, ∀ tree, Document body tree →
        content? backend tree = none) :
      Means backend response (.error (.malformedAnswer backend.name detail))
  | read (successful : 200 ≤ response.status ∧ response.status < 300) {body : Bytes} {tree : Tree}
      {content : Option String} (given : response.body = some body) (meant : Document body tree)
      (shape : content? backend tree = some content) :
      Means backend response (.ok (content.map Message.assistant))

theorem reports_iff {body : Option Bytes} {text : String} :
    Reports body text ↔ text = (body.map ofBytesLossy).getD "" := by
  constructor
  · rintro (text | _ | _)
    · exact (ofBytesLossy_bytes text).symm
    · rfl
    · rfl
  · rintro rfl
    cases body with
    | none => exact .cutShort
    | some octets =>
        cases decoded : ofBytes? octets with
        | none => exact .lossy decoded
        | some text =>
            rw [eq_bytes_of_ofBytes? decoded, Option.map_some, Option.getD_some,
              ofBytesLossy_bytes]
            exact .text text

/-- A successful answer is read as the content of its document, if its body is one. -/
theorem readBody_of_document {backend : Backend} {body : Bytes} {tree : Tree}
    {content : Option String} (meant : Document body tree)
    (shape : content? backend tree = some content) :
    readBody backend (some body) = .ok (content.map Message.assistant) := by
  have read := (decides_contentReader backend).readWhole_eq_ok_iff.mpr ⟨tree, meant, shape⟩
  simp only [readBody, Option.map_some, read]

theorem readBody_cases (backend : Backend) (body : Option Bytes) :
    (∃ octets tree content, body = some octets ∧ Document octets tree ∧
        content? backend tree = some content ∧
        readBody backend body = .ok (content.map Message.assistant)) ∨
      (∀ octets ∈ body, ∀ tree, Document octets tree → content? backend tree = none) ∧
        readBody backend body = .error (.malformedAnswer backend.name detail) := by
  cases body with
  | none => exact .inr ⟨nofun, rfl⟩
  | some octets =>
      cases read : readWhole (contentReader backend) octets with
      | ok content =>
          obtain ⟨tree, meant, shape⟩ := (decides_contentReader backend).readWhole_eq_ok_iff.mp read
          exact .inl ⟨octets, tree, content, rfl, meant, shape, readBody_of_document meant shape⟩
      | error fault =>
          refine .inr ⟨?_, by simp only [readBody, Option.map_some, read]⟩
          rintro _ ⟨⟩ tree meant
          cases shape : content? backend tree with
          | none => rfl
          | some content =>
              have read' := (decides_contentReader backend).readWhole_eq_ok_iff.mpr
                ⟨tree, meant, shape⟩
              rw [read] at read'
              cases read'

theorem readResponse_eq_iff {backend : Backend} {response : Response}
    {outcome : Except CompletionError (Option Message)} :
    readResponse backend response = outcome ↔ Means backend response outcome := by
  constructor
  · rintro rfl
    simp only [readResponse, Bool.and_eq_true, decide_eq_true_eq]
    split
    case isTrue successful =>
      rcases readBody_cases backend response.body with
        ⟨octets, tree, content, given, meant, shape, read⟩ | ⟨shapeless, read⟩
      · rw [read]
        exact .read successful given meant shape
      · rw [read]
        exact .malformed successful shapeless
    case isFalse outside =>
      split
      case isTrue refused => exact .refused (by simpa using refused)
      case isFalse other =>
        have neither : response.status ≠ 401 ∧ response.status ≠ 403 := by simpa using other
        exact .unsuccessful (by omega) neither (reports_iff.mpr rfl)
  · intro means
    cases means with
    | refused status => rcases status with same | same <;> simp [readResponse, same]
    | unsuccessful outside other reported =>
        have noSuccess : ¬ (200 ≤ response.status ∧ response.status < 300) := by omega
        simp [readResponse, noSuccess, other, reports_iff.mp reported]
    | malformed successful shapeless =>
        rcases readBody_cases backend response.body with
          ⟨octets, tree, content, given, meant, shape, _⟩ | ⟨_, read⟩
        · rw [shapeless octets given tree meant] at shape
          cases shape
        · simp [readResponse, successful, read]
    | read successful given meant shape =>
        simp [readResponse, successful, given, readBody_of_document meant shape]

/-- Whatever answer the network hands over to a request, the completion is what this answer
means: refused credentials, an error with its status and body, a malformed answer, or the
content of the document that its body is. Whether there is such a document is a matter of the
body as a whole, also of the choices behind the first one. -/
theorem complete_eq_iff_means (network : Network) (backend : Backend) (inputs : List Message)
    (response : Response)
    (handed : ((request backend inputs).target?.bind fun url =>
      network url (request backend inputs)) = some response)
    (outcome : Except CompletionError (Option Message)) :
    complete network backend inputs = outcome ↔ Means backend response outcome := by
  have read : complete network backend inputs = readResponse backend response := by
    simp only [complete, handed]
  rw [read]
  exact readResponse_eq_iff

/-- A network whose hosts all give one answer. -/
def answering (response : Response) : Network :=
  fun _ _ => some response

/-- Of two choices the first one supplies the content, the empty string. -/
theorem complete_answering :
    let backend := Backend.openAi "sk-test" "https://api.openai.com/v1" "gpt-4o-mini"
    let response : Response := {
      status := 200
      body := some (bytes
        "\x7b\"choices\":[\x7b\"message\":\x7b\"content\":\"\"\x7d\x7d,\x7b\x7d]\x7d") }
    ((request backend []).target?.bind fun url =>
        answering response url (request backend [])) = some response ∧
      Means backend response (.ok (some (Message.assistant ""))) := by
  intro backend response
  have handed : ((request backend []).target?.bind fun url =>
      answering response url (request backend [])) = some response := by decide +kernel
  exact ⟨handed, (complete_eq_iff_means (answering response) backend [] response handed _).mp
    (by decide +kernel)⟩

end PromptRelay.Completion
