/-!
Contract: text as bytes and bytes as text.

Owns:
- the UTF-8 bytes of a string and the string that valid bytes spell, which undo
  each other;
- the lossy reading that puts U+FFFD in place of what is not valid.

Does not own: any format that the bytes may hold.
-/

namespace PromptRelay.Text

abbrev Bytes := List UInt8

/-- The UTF-8 encoding of a string. -/
def bytes (s : String) : Bytes :=
  s.toByteArray.data.toList

/-- The string with exactly these bytes, if they are valid UTF-8. -/
def ofBytes? (octets : Bytes) : Option String :=
  String.fromUTF8? ⟨octets.toArray⟩

/-- The UTF-8 encoding of characters one after the other. -/
def utf8 (cs : List Char) : Bytes :=
  cs.flatMap String.utf8EncodeChar

/-! ## Laws -/

@[simp] theorem utf8_nil : utf8 [] = [] := rfl

@[simp] theorem utf8_cons (c : Char) (cs : List Char) :
    utf8 (c :: cs) = String.utf8EncodeChar c ++ utf8 cs := rfl

@[simp] theorem utf8_append (left right : List Char) :
    utf8 (left ++ right) = utf8 left ++ utf8 right :=
  List.flatMap_append

theorem length_le_length_utf8 (cs : List Char) : cs.length ≤ (utf8 cs).length := by
  induction cs with
  | nil => exact Nat.le_refl 0
  | cons c cs inductionHypothesis =>
      have positive : 0 < (String.utf8EncodeChar c).length :=
        List.length_pos_iff.mpr String.utf8EncodeChar_ne_nil
      rw [utf8_cons, List.length_cons, List.length_append]
      omega

theorem bytes_ofList (cs : List Char) : bytes (String.ofList cs) = utf8 cs := by
  rw [bytes, String.toByteArray_ofList, List.utf8Encode, List.toList_data_toByteArray, utf8]

theorem bytes_eq_utf8 (s : String) : bytes s = utf8 s.toList := by
  rw [← bytes_ofList, String.ofList_toList]

theorem ofBytes?_bytes (s : String) : ofBytes? (bytes s) = some s := by
  have same : (⟨(bytes s).toArray⟩ : ByteArray) = s.toByteArray := rfl
  rw [ofBytes?, same, String.fromUTF8?, dif_pos s.isValidUTF8]
  rfl

/-! ## Lossy reading -/

/-- The continuation bytes that may follow a lead byte: how many there are, and
the range that the first of them has to lie in. -/
def continuation? (lead : UInt8) : Option (Nat × UInt8 × UInt8) :=
  if 0xC2 ≤ lead && lead ≤ 0xDF then some (1, 0x80, 0xBF)
  else if lead = 0xE0 then some (2, 0xA0, 0xBF)
  else if lead = 0xED then some (2, 0x80, 0x9F)
  else if 0xE1 ≤ lead && lead ≤ 0xEF then some (2, 0x80, 0xBF)
  else if lead = 0xF0 then some (3, 0x90, 0xBF)
  else if lead = 0xF4 then some (3, 0x80, 0x8F)
  else if 0xF1 ≤ lead && lead ≤ 0xF3 then some (3, 0x80, 0xBF)
  else none

/-- How many of the following bytes continue the sequence, up to `count`. -/
def continuing (count : Nat) (low high : UInt8) : Bytes → Nat
  | [] => 0
  | byte :: rest =>
    match count with
    | 0 => 0
    | count + 1 =>
      if low ≤ byte && byte ≤ high then continuing count 0x80 0xBF rest + 1 else 0

/-- The scalar that a lead byte and its continuation bytes stand for. -/
def scalar (lead : UInt8) (tail : Bytes) : Char :=
  let payload := match tail.length with
    | 1 => lead.toNat % 0x20
    | 2 => lead.toNat % 0x10
    | _ => lead.toNat % 0x08
  Char.ofNat (tail.foldl (fun value byte => 64 * value + byte.toNat % 64) payload)

/-- Reads valid sequences as they are and each longest invalid one as U+FFFD. -/
def lossyChars : Bytes → List Char
  | [] => []
  | lead :: rest =>
    if lead < 0x80 then
      Char.ofNat lead.toNat :: lossyChars rest
    else
      match continuation? lead with
      | none => '\uFFFD' :: lossyChars rest
      | some (count, low, high) =>
        let found := continuing count low high rest
        if found = count then
          scalar lead (rest.take count) :: lossyChars (rest.drop count)
        else
          '\uFFFD' :: lossyChars (rest.drop found)
termination_by octets => octets.length
decreasing_by all_goals (simp only [List.length_drop, List.length_cons]; omega)

def ofBytesLossy (octets : Bytes) : String :=
  String.ofList (lossyChars octets)

end PromptRelay.Text
