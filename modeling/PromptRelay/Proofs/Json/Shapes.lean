import PromptRelay.Proofs.Json.Quoted
import PromptRelay.Proofs.Result

/-!
Contract: choices, optional strings, lists and records are read as they were written, be
it compactly or indented.

Owns:
- the blanks that may stand between tokens, and the readers that pass over them;
- that a name, an absent or a present string are taken back, however they are spelled;
- the texts that spell the items of a list or the members of a record, with blanks
  anywhere between tokens, and that they are read as what they spell;
- that both writers write such texts.

Does not own: which names, members and records there are.

Each reader is followed over what is written for one item or member. What is left
then begins with a comma or with the closing mark, and is the text of the others.
-/

namespace PromptRelay.Json

open Text (Bytes utf8 utf8_cons utf8_append)
open Result (ok_bind)

/-! ## Gaps -/

/-- Blanks, as they may stand between tokens. -/
def IsGap (gap : List Char) : Prop :=
  ∀ c ∈ gap, c = ' ' ∨ c = '\n' ∨ c = '\t' ∨ c = '\r'

theorem isGap_nil : IsGap [] := fun _ member => absurd member List.not_mem_nil

theorem isGap_space : IsGap [' '] := by
  intro c member
  exact .inl (List.mem_singleton.mp member)

theorem IsGap.append {first second : List Char} (firstIsGap : IsGap first)
    (secondIsGap : IsGap second) : IsGap (first ++ second) := by
  intro c member
  rcases List.mem_append.mp member with inFirst | inSecond
  · exact firstIsGap c inFirst
  · exact secondIsGap c inSecond

theorem isGap_newLine (depth : Nat) : IsGap (newLine depth) := by
  intro c member
  rcases List.mem_cons.mp member with isBreak | isIndentation
  · exact .inr (.inl isBreak)
  · exact .inl (List.eq_of_mem_replicate isIndentation)

theorem skipSpace_gap {gap : List Char} (isGap : IsGap gap) (rest : Bytes) :
    skipSpace (utf8 gap ++ rest) = skipSpace rest := by
  induction gap with
  | nil => rfl
  | cons c gap inductionHypothesis =>
      have onward := inductionHypothesis fun other member => isGap other (by simp [member])
      rcases isGap c (by simp) with rfl | rfl | rfl | rfl <;> exact onward

/-- The reader passes over blanks before a value. -/
def PassesGaps (read : Reader α) : Prop :=
  ∀ gap, IsGap gap → ∀ rest, read (utf8 gap ++ rest) = read rest

theorem readString_passesGaps : PassesGaps readString := by
  intro gap isGap rest
  simp only [readString, skipSpace_gap isGap]

theorem readChoice_passesGaps (choices : List (String × α)) : PassesGaps (readChoice choices) := by
  intro gap isGap rest
  simp only [readChoice, skipSpace_gap isGap]

theorem readOptional_passesGaps (read : Reader α) : PassesGaps (readOptional read) := by
  intro gap isGap rest
  simp only [readOptional, skipSpace_gap isGap]

theorem readList_passesGaps (read : Reader α) : PassesGaps (readList read) := by
  intro gap isGap rest
  simp only [readList, skipSpace_gap isGap]

theorem Reads.after_gap {read : Reader α} {written gap : List Char} {value : α}
    (reads : Reads read written value) (passes : PassesGaps read) (isGap : IsGap gap) :
    Reads read (gap ++ written) value := by
  intro rest
  rw [utf8_append, List.append_assoc, passes gap isGap]
  exact reads rest

/-! ## Names and optional strings -/

theorem readChoice_spelled {choices : List (String × α)} {text : List Char} {name : String}
    {value : α} (spelled : SpellsString text name) (known : choices.lookup name = some value) :
    Reads (readChoice choices) text value := by
  cases spelled with
  | @quoted text _ spelled =>
      intro rest
      have opened : skipSpace (utf8 ('"' :: (text ++ ['"'])) ++ rest) =
          quote :: (utf8 (text ++ ['"']) ++ rest) := rfl
      simp only [readChoice, opened, if_pos, readQuoted_spelled spelled, ok_bind, known]

theorem readChoice_reads {choices : List (String × α)} {name : String} {value : α}
    (known : choices.lookup name = some value) :
    Reads (readChoice choices) (quoted name) value :=
  readChoice_spelled (spellsString_quoted name) known

theorem readOptional_none : Reads (readOptional readString) writeNull none := fun _ => rfl

theorem readOptional_spelled {text : List Char} {s : String} (spelled : SpellsString text s) :
    Reads (readOptional readString) text (some s) := by
  have reads := readString_spelled spelled
  cases spelled with
  | @quoted text _ _ =>
      intro rest
      have opened : skipSpace (utf8 ('"' :: (text ++ ['"'])) ++ rest) =
          quote :: (utf8 (text ++ ['"']) ++ rest) := rfl
      have taken : readString (quote :: (utf8 (text ++ ['"']) ++ rest)) = .ok (s, rest) :=
        reads rest
      have other : quote ≠ letterN := by decide
      simp only [readOptional, opened, if_neg other, taken, ok_bind]

theorem readOptional_some (text : String) :
    Reads (readOptional readString) (quoted text) (some text) :=
  readOptional_spelled (spellsString_quoted text)

/-- A writer that puts a gap before strings and `null`, and writes them as they are. -/
structure PutsGap (gap : List Char) (written : Value → List Char) : Prop where
  isGap : IsGap gap
  text : ∀ text, written (.text text) = gap ++ quoted text
  null : written .null = gap ++ writeNull

theorem putsGap_write : PutsGap [] write := ⟨isGap_nil, fun _ => rfl, rfl⟩

theorem putsGap_writeIndented (depth : Nat) :
    PutsGap [' '] fun value => ' ' :: writeIndented depth value :=
  ⟨isGap_space, fun _ => rfl, rfl⟩

namespace PutsGap

variable {gap : List Char} {written : Value → List Char} (puts : PutsGap gap written)

include puts

theorem reads_text (text : String) : Reads readString (written (.text text)) text := by
  rw [puts.text]
  exact (readString_reads text).after_gap readString_passesGaps puts.isGap

theorem reads_choice {choices : List (String × α)} {name : String} {value : α}
    (known : choices.lookup name = some value) :
    Reads (readChoice choices) (written (.text name)) value := by
  rw [puts.text]
  exact (readChoice_reads known).after_gap (readChoice_passesGaps choices) puts.isGap

theorem reads_optional (text : Option String) :
    Reads (readOptional readString)
      (written (match text with | some text => .text text | none => .null)) text := by
  have passes := readOptional_passesGaps readString
  cases text with
  | none =>
      rw [puts.null]
      exact readOptional_none.after_gap passes puts.isGap
  | some text =>
      rw [puts.text]
      exact (readOptional_some text).after_gap passes puts.isGap

end PutsGap

/-! ## Going on -/

/-- What may stand before an item or a member: blanks, and a comma unless it is the first. -/
inductive Lead : (isFirst : Bool) → List Char → Prop where
  | first {gap : List Char} (isGap : IsGap gap) : Lead true gap
  | later {before after : List Char} (beforeIsGap : IsGap before) (afterIsGap : IsGap after) :
      Lead false (before ++ ',' :: after)

theorem Lead.append {isFirst : Bool} {lead gap : List Char} (leads : Lead isFirst lead)
    (isGap : IsGap gap) : Lead isFirst (lead ++ gap) := by
  cases leads with
  | first leadIsGap => exact .first (leadIsGap.append isGap)
  | later beforeIsGap afterIsGap =>
      rw [List.append_assoc, List.cons_append]
      exact .later beforeIsGap (afterIsGap.append isGap)

theorem lead_comma : Lead false [','] := .later isGap_nil isGap_nil

/-- A comma with blanks around it, as the readers find it. -/
theorem skipSpace_later {before after : List Char} (beforeIsGap : IsGap before) (rest : Bytes) :
    skipSpace (utf8 (before ++ ',' :: after) ++ rest) = comma :: (utf8 after ++ rest) := by
  rw [utf8_append, List.append_assoc, skipSpace_gap beforeIsGap]
  rfl

theorem nextItem_lead {isFirst : Bool} {lead : List Char} (leads : Lead isFirst lead)
    (rest : Bytes) :
    nextItem isFirst (utf8 lead ++ openObject :: rest) = .ok (.item (openObject :: rest)) := by
  cases leads with
  | first isGap =>
      rw [nextItem, skipSpace_gap isGap]
      rfl
  | later beforeIsGap afterIsGap =>
      simp only [nextItem, skipSpace_later beforeIsGap, skipSpace_gap afterIsGap]
      rfl

theorem nextMember_lead {isFirst : Bool} {lead : List Char} (leads : Lead isFirst lead)
    (rest : Bytes) : nextMember isFirst (utf8 lead ++ quote :: rest) = .ok (.item rest) := by
  cases leads with
  | first isGap =>
      rw [nextMember, skipSpace_gap isGap]
      rfl
  | later beforeIsGap afterIsGap =>
      simp only [nextMember, skipSpace_later beforeIsGap, skipSpace_gap afterIsGap]
      rfl

theorem nextItem_closed {gap : List Char} (isGap : IsGap gap) (isFirst : Bool) (rest : Bytes) :
    nextItem isFirst (utf8 (gap ++ [']']) ++ rest) = .ok (.closed rest) := by
  rw [utf8_append, List.append_assoc, nextItem, skipSpace_gap isGap]
  rfl

theorem nextMember_closed {gap : List Char} (isGap : IsGap gap) (isFirst : Bool) (rest : Bytes) :
    nextMember isFirst (utf8 (gap ++ ['\x7d']) ++ rest) = .ok (.closed rest) := by
  rw [utf8_append, List.append_assoc, nextMember, skipSpace_gap isGap]
  rfl

theorem readMark_gap {gap : List Char} (isGap : IsGap gap) (rest : Bytes) :
    readMark colon (utf8 gap ++ colon :: rest) = .ok rest := by
  rw [readMark, skipSpace_gap isGap]
  rfl

/-! ## Lists -/

/-- The texts that spell items up to the closing bracket. Every item is an object. -/
inductive Items (read : Reader α) : (isFirst : Bool) → List Char → List α → Prop where
  | closed {isFirst : Bool} {gap : List Char} (isGap : IsGap gap) :
      Items read isFirst (gap ++ [']']) []
  | item {isFirst : Bool} {lead text tail : List Char} {item : α} {items : List α}
      (leads : Lead isFirst lead) (opens : ∃ members, text = '\x7b' :: members)
      (reads : Reads read text item) (onward : Items read false tail items) :
      Items read isFirst (lead ++ (text ++ tail)) (item :: items)

theorem readItems_of_items {read : Reader α} {isFirst : Bool} {text : List Char} {items : List α}
    (spelled : Items read isFirst text items) (rest : Bytes) (fuel : Nat)
    (enough : text.length ≤ fuel) :
    readItems read fuel isFirst (utf8 text ++ rest) = .ok (items, rest) := by
  induction spelled generalizing fuel with
  | closed isGap =>
      rw [List.length_append, List.length_singleton] at enough
      obtain ⟨left, rfl⟩ : ∃ left, fuel = left + 1 := ⟨fuel - 1, by omega⟩
      simp only [readItems, nextItem_closed isGap, ok_bind]
  | @item _ lead _ tail _ _ leads opens reads _ inductionHypothesis =>
      obtain ⟨members, rfl⟩ := opens
      rw [List.length_append, List.length_append, List.length_cons] at enough
      obtain ⟨left, rfl⟩ : ∃ left, fuel = left + 1 := ⟨fuel - 1, by omega⟩
      have next := nextItem_lead leads (utf8 members ++ (utf8 tail ++ rest))
      have taken : read (openObject :: (utf8 members ++ (utf8 tail ++ rest))) =
          .ok (_, utf8 tail ++ rest) := reads (utf8 tail ++ rest)
      have onward := inductionHypothesis left (by omega)
      have bytes : utf8 (lead ++ ('\x7b' :: members ++ tail)) ++ rest =
          utf8 lead ++ openObject :: (utf8 members ++ (utf8 tail ++ rest)) := by
        rw [utf8_append, List.append_assoc, utf8_append, List.append_assoc]
        rfl
      simp only [bytes, readItems, next, ok_bind, taken, onward]

theorem readList_of_items {read : Reader α} {text : List Char} {items : List α}
    (spelled : Items read true text items) : Reads (readList read) ('[' :: text) items := by
  intro rest
  have room := Text.length_le_length_utf8 text
  change readItems read ((utf8 text ++ rest).length + 1) true (utf8 text ++ rest) = _
  refine readItems_of_items spelled rest _ ?_
  rw [List.length_append]
  omega

/-- A writer of items that puts one gap before each item and another one before the closing
bracket. -/
structure LaysItems (writeAll : List Value → List Char) (written : Value → List Char)
    (before closing : List Char) : Prop where
  beforeIsGap : IsGap before
  closingIsGap : IsGap closing
  last : ∀ item, writeAll [item] = before ++ (written item ++ (closing ++ [']']))
  more : ∀ item next items,
    writeAll (item :: next :: items) = before ++ (written item ++ ',' :: writeAll (next :: items))

theorem laysItems_writeItems : LaysItems writeItems write [] [] where
  beforeIsGap := isGap_nil
  closingIsGap := isGap_nil
  last _ := rfl
  more _ _ _ := rfl

theorem laysItems_indentedItems (depth : Nat) :
    LaysItems (indentedItems depth) (writeIndented depth) (newLine depth)
      (newLine (depth - 1)) where
  beforeIsGap := isGap_newLine depth
  closingIsGap := isGap_newLine (depth - 1)
  last _ := by simp [indentedItems]
  more _ _ _ := by simp [indentedItems]

theorem LaysItems.items {writeAll : List Value → List Char} {written : Value → List Char}
    {before closing : List Char} (lays : LaysItems writeAll written before closing)
    {toJson : α → Value} {read : Reader α}
    (opens : ∀ item, ∃ members, written (toJson item) = '\x7b' :: members)
    (reads : ∀ item, Reads read (written (toJson item)) item) {items : List α}
    (isNonempty : items ≠ []) {isFirst : Bool} {lead : List Char} (leads : Lead isFirst lead) :
    Items read isFirst (lead ++ writeAll (items.map toJson)) items := by
  induction items generalizing isFirst lead with
  | nil => exact absurd rfl isNonempty
  | cons item items inductionHypothesis =>
      have itemLeads := leads.append lays.beforeIsGap
      cases items with
      | nil =>
          rw [List.map_singleton, lays.last, ← List.append_assoc]
          exact .item itemLeads (opens item) (reads item) (.closed lays.closingIsGap)
      | cons next items =>
          have onward := inductionHypothesis (List.cons_ne_nil next items) lead_comma
          rw [List.map_cons, List.map_cons, lays.more, ← List.append_assoc]
          exact .item itemLeads (opens item) (reads item) onward

section

variable {toJson : α → Value} {read : Reader α}
  (opens : ∀ item, ∃ members, toJson item = .object members)

include opens

/-- A list of records is read as its items if each of them is read as itself. -/
theorem readList_reads (reads : ∀ item, Reads read (write (toJson item)) item) (items : List α) :
    Reads (readList read) (write (.list (items.map toJson))) items := by
  have itemOpens (item : α) : ∃ members, write (toJson item) = '\x7b' :: members := by
    obtain ⟨members, object⟩ := opens item
    exact ⟨_, by rw [object]; rfl⟩
  cases items with
  | nil => exact readList_of_items (.closed isGap_nil)
  | cons item items =>
      exact readList_of_items (laysItems_writeItems.items itemOpens reads
        (List.cons_ne_nil item items) (.first isGap_nil))

theorem readList_reads_indented {depth : Nat}
    (reads : ∀ item, Reads read (writeIndented (depth + 1) (toJson item)) item) (items : List α) :
    Reads (readList read) (writeIndented depth (.list (items.map toJson))) items := by
  have itemOpens (item : α) :
      ∃ members, writeIndented (depth + 1) (toJson item) = '\x7b' :: members := by
    obtain ⟨members, object⟩ := opens item
    rw [object]
    cases members with
    | nil => exact ⟨_, rfl⟩
    | cons member members => exact ⟨_, rfl⟩
  cases items with
  | nil => exact readList_of_items (.closed isGap_nil)
  | cons item items =>
      exact readList_of_items ((laysItems_indentedItems (depth + 1)).items itemOpens reads
        (List.cons_ne_nil item items) (.first isGap_nil))

end

/-! ## Records -/

section

variable {fields : List (Field σ)}

/-- The texts that spell members up to the closing brace, with the drafts before and after
them. -/
inductive Members (fields : List (Field σ)) : (isFirst : Bool) → σ → List Char → σ → Prop where
  | closed {isFirst : Bool} {draft : σ} {gap : List Char} (isGap : IsGap gap) :
      Members fields isFirst draft (gap ++ ['\x7d']) draft
  | member {isFirst : Bool} {draft next last : σ} {lead gap value tail : List Char} {name : String}
      {field : Field σ} (leads : Lead isFirst lead) (isGap : IsGap gap)
      (known : fields.find? (·.name == name) = some field)
      (fresh : field.isSet draft = false)
      (reads : Reads (field.read draft) value next)
      (onward : Members fields false next tail last) :
      Members fields isFirst draft (lead ++ (quoted name ++ (gap ++ ':' :: (value ++ tail)))) last

/-- A member is read by its name, whatever is behind its colon. -/
theorem readMembers_named {isFirst : Bool} {lead spelling gap : List Char} {name : String}
    (leads : Lead isFirst lead) (named : SpellsString spelling name) (isGap : IsGap gap)
    (draft : σ) (rest : Bytes) (fuel : Nat) :
    readMembers fields (fuel + 1) isFirst draft
        (utf8 (lead ++ (spelling ++ (gap ++ [':']))) ++ rest) =
      match fields.find? (·.name == name) with
      | none => skipValue rest >>= readMembers fields fuel false draft
      | some field =>
        if field.isSet draft then .error .mismatched
        else field.read draft rest >>= fun (next, rest) =>
          readMembers fields fuel false next rest := by
  cases named with
  | @quoted spelling _ spelled =>
      -- The opening quote of the name belongs to the lead, its closing quote to the name.
      have bytes : utf8 (lead ++ ('"' :: (spelling ++ ['"']) ++ (gap ++ [':']))) ++ rest =
          utf8 lead ++ quote :: (utf8 (spelling ++ ['"']) ++ (utf8 gap ++ colon :: rest)) := by
        simp only [utf8_append, utf8_cons, List.append_assoc, List.cons_append]
        rfl
      rw [bytes, readMembers, nextMember_lead leads, ok_bind]
      dsimp only
      rw [readQuoted_spelled spelled, ok_bind]
      dsimp only
      rw [readMark_gap isGap]
      rfl

theorem readMembers_of_members {isFirst : Bool} {draft last : σ} {text : List Char}
    (spelled : Members fields isFirst draft text last) (rest : Bytes) (fuel : Nat)
    (enough : text.length ≤ fuel) :
    readMembers fields fuel isFirst draft (utf8 text ++ rest) = .ok (last, rest) := by
  induction spelled generalizing fuel with
  | closed isGap =>
      rw [List.length_append, List.length_singleton] at enough
      obtain ⟨left, rfl⟩ : ∃ left, fuel = left + 1 := ⟨fuel - 1, by omega⟩
      simp only [readMembers, nextMember_closed isGap, ok_bind]
  | @member _ _ _ _ lead gap value tail name _ leads isGap known fresh reads _
      inductionHypothesis =>
      simp only [List.length_append, List.length_cons] at enough
      obtain ⟨left, rfl⟩ : ∃ left, fuel = left + 1 := ⟨fuel - 1, by omega⟩
      have taken := reads (utf8 tail ++ rest)
      have onward := inductionHypothesis left (by omega)
      have bytes : utf8 (lead ++ (quoted name ++ (gap ++ ':' :: (value ++ tail)))) ++ rest =
          utf8 (lead ++ (quoted name ++ (gap ++ [':']))) ++
            (utf8 value ++ (utf8 tail ++ rest)) := by
        simp only [utf8_append, utf8_cons, List.append_assoc, Text.utf8_nil, List.nil_append]
      simp only [bytes, readMembers_named leads (spellsString_quoted name) isGap, known, fresh,
        Bool.false_eq_true, if_false, taken, ok_bind, onward]

theorem readRecord_of_members {record : Record σ α} {text : List Char} {last : σ} {value : α}
    (spelled : Members record.fields true record.draft text last)
    (finished : record.finish last = some value) :
    Reads (readRecord record) ('\x7b' :: text) value := by
  intro rest
  have room := Text.length_le_length_utf8 text
  have read : readMembers record.fields ((utf8 text ++ rest).length + 1) true record.draft
      (utf8 text ++ rest) = .ok (last, rest) := by
    refine readMembers_of_members spelled rest _ ?_
    rw [List.length_append]
    omega
  have opened : skipSpace (utf8 ('\x7b' :: text) ++ rest) = openObject :: (utf8 text ++ rest) := rfl
  have other : openObject ≠ openList := by decide
  simp only [readRecord, opened, if_neg other, if_pos, read, ok_bind, finished]

/-- A reader that puts what it takes into a draft. -/
theorem reads_update {read : Reader α} {written : List Char} {value : α}
    (reads : Reads read written value) (update : α → σ) :
    Reads (fun input => do let (value, rest) ← read input; .ok (update value, rest)) written
      (update value) := by
  intro rest
  change (read (utf8 written ++ rest) >>= fun (value, rest) => Except.ok (update value, rest)) = _
  rw [reads rest]
  rfl

/-- The members of a record as they are read one after the other from what a writer writes
for their values, with the drafts before and after them. -/
inductive Drafts (fields : List (Field σ)) (written : Value → List Char) :
    σ → List (String × Value) → σ → Prop where
  | nil (draft : σ) : Drafts fields written draft [] draft
  | cons {draft next last : σ} {name : String} {value : Value} {members : List (String × Value)}
      {field : Field σ} (known : fields.find? (·.name == name) = some field)
      (fresh : field.isSet draft = false)
      (reads : Reads (field.read draft) (written value) next)
      (onward : Drafts fields written next members last) :
      Drafts fields written draft ((name, value) :: members) last

/-- A writer of members that puts one gap before each name and another one before the closing
brace. What it puts before a value is part of how it writes values. -/
structure LaysMembers (writeAll : List (String × Value) → List Char)
    (written : Value → List Char) (before closing : List Char) : Prop where
  beforeIsGap : IsGap before
  closingIsGap : IsGap closing
  last : ∀ name value, writeAll [(name, value)] =
    before ++ (quoted name ++ ':' :: (written value ++ (closing ++ ['\x7d'])))
  more : ∀ name value next members, writeAll ((name, value) :: next :: members) =
    before ++ (quoted name ++ ':' :: (written value ++ ',' :: writeAll (next :: members)))

theorem laysMembers_writeMembers : LaysMembers writeMembers write [] [] where
  beforeIsGap := isGap_nil
  closingIsGap := isGap_nil
  last _ _ := by simp [writeMembers]
  more _ _ _ _ := by simp [writeMembers]

theorem laysMembers_indentedMembers (depth : Nat) :
    LaysMembers (indentedMembers depth) (fun value => ' ' :: writeIndented depth value)
      (newLine depth) (newLine (depth - 1)) where
  beforeIsGap := isGap_newLine depth
  closingIsGap := isGap_newLine (depth - 1)
  last _ _ := by simp [indentedMembers]
  more _ _ _ _ := by simp [indentedMembers]

theorem LaysMembers.members {writeAll : List (String × Value) → List Char}
    {written : Value → List Char} {before closing : List Char}
    (lays : LaysMembers writeAll written before closing) {draft last : σ}
    {members : List (String × Value)} (drafts : Drafts fields written draft members last)
    (isNonempty : members ≠ []) {isFirst : Bool} {lead : List Char} (leads : Lead isFirst lead) :
    Members fields isFirst draft (lead ++ writeAll members) last := by
  induction drafts generalizing isFirst lead with
  | nil draft => exact absurd rfl isNonempty
  | @cons _ _ _ name value members _ known fresh reads onward inductionHypothesis =>
      have memberLeads := leads.append lays.beforeIsGap
      cases members with
      | nil =>
          cases onward
          rw [lays.last, ← List.append_assoc]
          exact .member memberLeads isGap_nil known fresh reads (.closed lays.closingIsGap)
      | cons member members =>
          have tail := inductionHypothesis (List.cons_ne_nil member members) lead_comma
          rw [lays.more, ← List.append_assoc]
          exact .member memberLeads isGap_nil known fresh reads tail

/-- A record is read from the object of its members. -/
theorem readRecord_reads {record : Record σ α} {members : List (String × Value)} {last : σ}
    {value : α} (drafts : Drafts record.fields write record.draft members last)
    (finished : record.finish last = some value) :
    Reads (readRecord record) (write (.object members)) value := by
  cases members with
  | nil =>
      cases drafts
      exact readRecord_of_members (.closed isGap_nil) finished
  | cons member members =>
      have spelled := laysMembers_writeMembers.members drafts (List.cons_ne_nil member members)
        (.first isGap_nil)
      exact readRecord_of_members spelled finished

theorem readRecord_reads_indented {record : Record σ α} {depth : Nat}
    {members : List (String × Value)} {last : σ} {value : α}
    (drafts : Drafts record.fields (fun value => ' ' :: writeIndented (depth + 1) value)
      record.draft members last)
    (finished : record.finish last = some value) :
    Reads (readRecord record) (writeIndented depth (.object members)) value := by
  cases members with
  | nil =>
      cases drafts
      exact readRecord_of_members (.closed isGap_nil) finished
  | cons member members =>
      have spelled := (laysMembers_indentedMembers (depth + 1)).members drafts
        (List.cons_ne_nil member members) (.first isGap_nil)
      exact readRecord_of_members spelled finished

end

/-! ## Whole texts -/

/-- Behind the value there may be blanks only. -/
theorem readWhole_of_taken {read : Reader α} {input rest : Bytes} {value : α}
    (taken : read input = .ok (value, rest)) :
    readWhole read input = if (skipSpace rest).isEmpty then .ok value else .error .malformed := by
  rw [readWhole, taken]
  rfl

theorem readWhole_of_fault {read : Reader α} {input : Bytes} {fault : Fault}
    (failed : read input = .error fault) : readWhole read input = .error fault := by
  rw [readWhole, failed]
  rfl

theorem readWhole_of_reads {read : Reader α} {text : List Char} {value : α}
    (reads : Reads read text value) : readWhole read (utf8 text) = .ok value := by
  have taken := reads []
  rw [List.append_nil] at taken
  exact readWhole_of_taken taken

end PromptRelay.Json
