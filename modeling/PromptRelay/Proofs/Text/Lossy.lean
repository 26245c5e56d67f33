import PromptRelay.Text.Bytes

/-!
Contract: the lossy reading loses nothing of a text.

Owns:
- that the lossy reading takes the bytes of a character as that character, whatever follows;
- that it gives back a text from its bytes;
- that bytes which are a text are the bytes of no other one.

Does not own: what is put in place of bytes that are no text.
-/

namespace PromptRelay.Text

/-! ## One sequence -/

/-- A lead byte with as many continuation bytes as it asks for is read as one character. -/
theorem lossyChars_sequence {lead low high : UInt8} (tail : Bytes) {rest : Bytes}
    (notAscii : ¬ lead < 0x80) (continues : continuation? lead = some (tail.length, low, high))
    (found : continuing tail.length low high (tail ++ rest) = tail.length) :
    lossyChars (lead :: (tail ++ rest)) = scalar lead tail :: lossyChars rest := by
  rw [lossyChars, if_neg notAscii, continues]
  dsimp only
  rw [if_pos found, List.take_left, List.drop_left]

/-- A continuation byte. -/
def continuationByte (n : Nat) : UInt8 :=
  UInt8.ofNat (n % 0x40 + 0x80)

theorem toNat_continuationByte (n : Nat) : (continuationByte n).toNat = n % 0x40 + 0x80 := by
  rw [continuationByte, UInt8.toNat_ofNat', Nat.mod_eq_of_lt (by omega)]

theorem continuing_byte {count : Nat} {low high : UInt8} {n : Nat} {rest : Bytes}
    (above : low.toNat ≤ n % 0x40 + 0x80) (below : n % 0x40 + 0x80 ≤ high.toNat) :
    continuing (count + 1) low high (continuationByte n :: rest) =
      continuing count 0x80 0xBF rest + 1 := by
  have within : (low ≤ continuationByte n && continuationByte n ≤ high) = true := by
    simp only [Bool.and_eq_true, decide_eq_true_eq, UInt8.le_iff_toNat_le,
      toNat_continuationByte]
    exact ⟨above, below⟩
  rw [continuing]
  exact if_pos within

theorem continuing_zero (low high : UInt8) (rest : Bytes) : continuing 0 low high rest = 0 := by
  cases rest <;> rfl

/-- The byte behind the first may be any continuation byte. -/
theorem continuing_any {count n : Nat} {rest : Bytes} :
    continuing (count + 1) 0x80 0xBF (continuationByte n :: rest) =
      continuing count 0x80 0xBF rest + 1 :=
  continuing_byte (by show 0x80 ≤ _; omega) (by show _ ≤ 0xBF; omega)

theorem continuing_last (n : Nat) (rest : Bytes) :
    continuing 1 0x80 0xBF (continuationByte n :: rest) = 1 :=
  continuing_any.trans (congrArg (· + 1) (continuing_zero 0x80 0xBF rest))

/-! ## Lead bytes -/

theorem not_ofNat_lt_0x80 {n : Nat} (above : 0x80 ≤ n) (small : n < 256) :
    ¬ UInt8.ofNat n < 0x80 := by
  rw [UInt8.lt_iff_toNat_lt, UInt8.toNat_ofNat', Nat.mod_eq_of_lt small]
  exact Nat.not_lt.mpr above

theorem continuation?_two {n : Nat} (above : 0xC2 ≤ n) (below : n ≤ 0xDF) :
    continuation? (UInt8.ofNat n) = some (1, 0x80, 0xBF) := by
  have all : ∀ place : Fin 0x1E, continuation? (UInt8.ofNat (0xC2 + place.val)) =
      some (1, 0x80, 0xBF) := by decide +kernel
  have found := all ⟨n - 0xC2, by omega⟩
  rwa [Nat.add_sub_cancel' above] at found

/-- Of three bytes the first two exclude what takes fewer bytes, and surrogates. -/
theorem continuation?_three {n : Nat} (above : 0xE0 ≤ n) (below : n ≤ 0xEF) :
    continuation? (UInt8.ofNat n) =
      some (2, if n = 0xE0 then 0xA0 else 0x80, if n = 0xED then 0x9F else 0xBF) := by
  have all : ∀ place : Fin 0x10, continuation? (UInt8.ofNat (0xE0 + place.val)) =
      some (2, if 0xE0 + place.val = 0xE0 then 0xA0 else 0x80,
        if 0xE0 + place.val = 0xED then 0x9F else 0xBF) := by decide +kernel
  have found := all ⟨n - 0xE0, by omega⟩
  simp only [Nat.add_sub_cancel' above] at found
  exact found

/-- Of four bytes the first two exclude what takes fewer bytes, and what is too large. -/
theorem continuation?_four {n : Nat} (above : 0xF0 ≤ n) (below : n ≤ 0xF4) :
    continuation? (UInt8.ofNat n) =
      some (3, if n = 0xF0 then 0x90 else 0x80, if n = 0xF4 then 0x8F else 0xBF) := by
  have all : ∀ place : Fin 5, continuation? (UInt8.ofNat (0xF0 + place.val)) =
      some (3, if 0xF0 + place.val = 0xF0 then 0x90 else 0x80,
        if 0xF0 + place.val = 0xF4 then 0x8F else 0xBF) := by decide +kernel
  have found := all ⟨n - 0xF0, by omega⟩
  simp only [Nat.add_sub_cancel' above] at found
  exact found

/-! ## Characters -/

section

variable {n : Nat} (rest : Bytes)

theorem lossyChars_one (below : n ≤ 0x7F) :
    lossyChars (UInt8.ofNat n :: rest) = Char.ofNat n :: lossyChars rest := by
  have ascii : UInt8.ofNat n < 0x80 := by
    rw [UInt8.lt_iff_toNat_lt, UInt8.toNat_ofNat', Nat.mod_eq_of_lt (by omega)]
    show n < 0x80
    omega
  rw [lossyChars, if_pos ascii, UInt8.toNat_ofNat', Nat.mod_eq_of_lt (by omega)]

theorem lossyChars_two (above : 0x7F < n) (below : n ≤ 0x7FF) :
    lossyChars (UInt8.ofNat (n / 64 % 32 + 192) :: continuationByte n :: rest) =
      Char.ofNat n :: lossyChars rest := by
  have lead := continuation?_two (n := n / 64 % 32 + 192) (by omega) (by omega)
  refine (lossyChars_sequence [continuationByte n]
    (not_ofNat_lt_0x80 (by omega) (by omega)) lead (continuing_last n rest)).trans ?_
  rw [scalar]
  simp only [List.length_singleton, List.foldl_cons, List.foldl_nil, UInt8.toNat_ofNat',
    toNat_continuationByte]
  congr 2
  omega

theorem lossyChars_three (above : 0x7FF < n) (below : n ≤ 0xFFFF)
    (noSurrogate : n < 0xD800 ∨ 0xDFFF < n) :
    lossyChars (UInt8.ofNat (n / 4096 % 16 + 224) :: continuationByte (n / 64) ::
        continuationByte n :: rest) =
      Char.ofNat n :: lossyChars rest := by
  have lead := continuation?_three (n := n / 4096 % 16 + 224) (by omega) (by omega)
  refine (lossyChars_sequence [continuationByte (n / 64), continuationByte n]
    (not_ofNat_lt_0x80 (by omega) (by omega)) lead ?_).trans ?_
  · refine (continuing_byte ?_ ?_).trans (congrArg (· + 1) (continuing_last n rest))
    · split
      · show 0xA0 ≤ _
        omega
      · show 0x80 ≤ _
        omega
    · split
      · show _ ≤ 0x9F
        omega
      · show _ ≤ 0xBF
        omega
  · rw [scalar]
    simp only [List.length_cons, List.length_nil, List.foldl_cons, List.foldl_nil,
      UInt8.toNat_ofNat', toNat_continuationByte]
    congr 2
    omega

theorem lossyChars_four (above : 0xFFFF < n) (below : n < 0x110000) :
    lossyChars (UInt8.ofNat (n / 262144 % 8 + 240) :: continuationByte (n / 4096) ::
        continuationByte (n / 64) :: continuationByte n :: rest) =
      Char.ofNat n :: lossyChars rest := by
  have lead := continuation?_four (n := n / 262144 % 8 + 240) (by omega) (by omega)
  refine (lossyChars_sequence
    [continuationByte (n / 4096), continuationByte (n / 64), continuationByte n]
    (not_ofNat_lt_0x80 (by omega) (by omega)) lead ?_).trans ?_
  · refine (continuing_byte ?_ ?_).trans
      (congrArg (· + 1) (continuing_any.trans (congrArg (· + 1) (continuing_last n rest))))
    · split
      · show 0x90 ≤ _
        omega
      · show 0x80 ≤ _
        omega
    · split
      · show _ ≤ 0x8F
        omega
      · show _ ≤ 0xBF
        omega
  · rw [scalar]
    simp only [List.length_cons, List.length_nil, List.foldl_cons, List.foldl_nil,
      UInt8.toNat_ofNat', toNat_continuationByte]
    congr 2
    omega

end

/-- What a character is encoded as depends on its size only. -/
theorem lossyChars_utf8EncodeChar (c : Char) (rest : Bytes) :
    lossyChars (String.utf8EncodeChar c ++ rest) = c :: lossyChars rest := by
  have valid : c.toNat < 0xD800 ∨ 0xDFFF < c.toNat ∧ c.toNat < 0x110000 := c.valid
  have encoded : String.utf8EncodeChar c ++ rest =
      if c.toNat ≤ 0x7F then UInt8.ofNat c.toNat :: rest
      else if c.toNat ≤ 0x7FF then
        UInt8.ofNat (c.toNat / 64 % 32 + 192) :: continuationByte c.toNat :: rest
      else if c.toNat ≤ 0xFFFF then
        UInt8.ofNat (c.toNat / 4096 % 16 + 224) :: continuationByte (c.toNat / 64) ::
          continuationByte c.toNat :: rest
      else
        UInt8.ofNat (c.toNat / 262144 % 8 + 240) :: continuationByte (c.toNat / 4096) ::
          continuationByte (c.toNat / 64) :: continuationByte c.toNat :: rest := by
    unfold String.utf8EncodeChar
    change (if c.toNat ≤ 0x7F then _ else if c.toNat ≤ 0x7FF then _
      else if c.toNat ≤ 0xFFFF then _ else _) ++ rest = _
    repeat' split
    all_goals rfl
  have same : Char.ofNat c.toNat = c := Char.ofNat_toNat c
  rw [encoded]
  split
  · rw [lossyChars_one rest (by omega), same]
  · split
    · rw [lossyChars_two rest (by omega) (by omega), same]
    · split
      · rw [lossyChars_three rest (by omega) (by omega) (by omega), same]
      · rw [lossyChars_four rest (by omega) (by omega), same]

/-- A text is read as itself, whichever characters it has. -/
theorem ofBytesLossy_bytes (text : String) : ofBytesLossy (bytes text) = text := by
  have all (cs : List Char) : lossyChars (utf8 cs) = cs := by
    induction cs with
    | nil => rw [utf8_nil, lossyChars]
    | cons c cs inductionHypothesis =>
        rw [utf8_cons, lossyChars_utf8EncodeChar, inductionHypothesis]
  rw [ofBytesLossy, bytes_eq_utf8, all, String.ofList_toList]

/-- Bytes that are a text are the bytes of that text. -/
theorem eq_bytes_of_ofBytes? {octets : Bytes} {text : String} (decoded : ofBytes? octets = some text) :
    octets = bytes text := by
  unfold ofBytes? String.fromUTF8? at decoded
  split at decoded
  case isTrue valid =>
    cases decoded
    rfl
  case isFalse => cases decoded

end PromptRelay.Text
