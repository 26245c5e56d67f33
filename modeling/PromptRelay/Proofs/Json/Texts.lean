import PromptRelay.Proofs.Json.Shapes

/-!
Contract: objects whose members are strings.

Owns:
- reading such an object as the list of its names and strings;
- that what is written for a list is read as that list, whatever characters there are in
  the strings.

Does not own: which objects there are.
-/

namespace PromptRelay.Json

/-- The strings of an object under their names, in the order in which they are written. -/
abbrev Texts := List (String × String)

/-- A member that is a string. The draft has the members that were read before it. -/
def textField (name : String) : Field Texts where
  name := name
  isSet := fun draft => (draft.lookup name).isSome
  read := fun draft input => do
    let (text, rest) ← readString input
    .ok (draft ++ [(name, text)], rest)
  mayLack := false

/-- An object that has a string under each of the names. -/
def textsRecord (names : List String) : Record Texts Texts where
  fields := names.map textField
  draft := []
  finish := fun texts =>
    if names.all fun name => (texts.lookup name).isSome then some texts else none

def readTexts (names : List String) : Reader Texts :=
  readRecord (textsRecord names)

def Texts.toJson (texts : Texts) : Value :=
  .object (texts.map fun entry => (entry.1, .text entry.2))

theorem find?_textField {names : List String} {name : String} (known : name ∈ names) :
    (names.map textField).find? (·.name == name) = some (textField name) := by
  induction names with
  | nil => exact absurd known List.not_mem_nil
  | cons first names inductionHypothesis =>
      by_cases same : first = name
      · subst same
        simp [textField]
      · have later := inductionHypothesis (List.mem_of_ne_of_mem (Ne.symm same) known)
        rw [List.map_cons, List.find?_cons_of_neg, later]
        simpa [textField] using same

theorem lookup_isSome_iff {texts : Texts} {name : String} :
    (texts.lookup name).isSome = true ↔ name ∈ texts.map Prod.fst := by
  induction texts with
  | nil => simp
  | cons entry texts inductionHypothesis =>
      obtain ⟨first, text⟩ := entry
      by_cases same : name = first
      · subst same
        simp
      · have other : (name == first) = false := by simp [same]
        rw [List.lookup_cons, other, List.map_cons, List.mem_cons]
        simp [same, inductionHypothesis]

/-- Each string is added to those before it, of which none has its name. -/
theorem texts_drafts {gap : List Char} {written : Value → List Char} (puts : PutsGap gap written)
    {names : List String} {draft texts : Texts}
    (known : ∀ entry ∈ texts, entry.1 ∈ names)
    (distinct : ((draft ++ texts).map Prod.fst).Nodup) :
    Drafts (names.map textField) written draft
      (texts.map fun entry => (entry.1, .text entry.2)) (draft ++ texts) := by
  induction texts generalizing draft with
  | nil =>
      rw [List.append_nil]
      exact .nil draft
  | cons entry texts inductionHypothesis =>
      obtain ⟨name, text⟩ := entry
      have isUnset : (textField name).isSet draft = false := by
        rw [← Bool.not_eq_true]
        intro found
        rw [List.map_append] at distinct
        have member := lookup_isSome_iff.mp found
        exact (List.nodup_append.mp distinct).2.2 name member name (by simp) rfl
      have reads := reads_update (puts.reads_text text) fun text => draft ++ [(name, text)]
      rw [List.append_cons] at distinct ⊢
      have onward := inductionHypothesis
        (fun other member => known other (List.mem_cons_of_mem _ member)) distinct
      exact .cons (find?_textField (known _ List.mem_cons_self)) isUnset reads onward

theorem readTexts_reads {texts : Texts}
    (distinct : (texts.map Prod.fst).Nodup) :
    Reads (readTexts (texts.map Prod.fst)) (write texts.toJson) texts := by
  have known : ∀ entry ∈ texts, entry.1 ∈ texts.map Prod.fst :=
    fun entry member => List.mem_map_of_mem member
  have isComplete : (texts.map Prod.fst).all (fun name => (texts.lookup name).isSome) = true := by
    rw [List.all_eq_true]
    exact fun name member => lookup_isSome_iff.mpr member
  exact readRecord_reads (texts_drafts putsGap_write known distinct) (if_pos isComplete)

end PromptRelay.Json
