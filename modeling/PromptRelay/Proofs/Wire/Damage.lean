import PromptRelay.Proofs.Json.Blanks
import PromptRelay.Proofs.Json.Truncation
import PromptRelay.Proofs.Wire.RoundTrip

/-!
Contract: payloads that were damaged on their way are told by how they were.

Owns:
- that the payload of a message is truncated wherever it is cut;
- that bytes behind it are refused, unless they are blanks;
- that blanks around it make no difference, and neither do those around what is no payload.

Does not own: changes inside of a payload.
-/

namespace PromptRelay

open Json
open Text (Bytes bytes utf8)

theorem messageRecord_isFirm :
    ∀ field ∈ messageRecord.fields, ∀ draft, IsFirm (field.read draft) := by
  intro field member draft
  simp only [messageRecord, List.mem_cons, List.not_mem_nil, or_false] at member
  rcases member with rfl | rfl | rfl
  · exact update_isFirm (readChoice_isFirm _)
      fun role => ({ draft with role := some role } : MessageDraft)
  · exact update_isFirm (readOptional_isFirm readString_isFirm)
      fun name => ({ draft with name := some name } : MessageDraft)
  · exact update_isFirm readString_isFirm
      fun content => ({ draft with content := some content } : MessageDraft)

theorem readMessage_cut {message : Message} {start : Bytes}
    (cut : IsCut start (utf8 (write message.toJson))) :
    readMessage start = .error .truncated := by
  have spelled := laysMembers_writeMembers.members (message_drafts putsGap_write message)
    (List.cons_ne_nil _ _) (.first isGap_nil)
  exact readRecord_cut spelled messageRecord_isFirm cut

/-- Blank bytes before a record are passed over. -/
theorem readRecord_blank (record : Record σ α) {before : Bytes}
    (blank : ∀ byte ∈ before, isSpace byte = true) (rest : Bytes) :
    readRecord record (before ++ rest) = readRecord record rest := by
  have passed : skipSpace (before ++ rest) = skipSpace rest := List.dropWhile_append_of_pos blank
  unfold readRecord
  rw [passed]

theorem messageRecord_tolerant :
    ∀ field ∈ messageRecord.fields, ∀ draft, IsTolerant (field.read draft) := by
  intro field member draft
  simp only [messageRecord, List.mem_cons, List.not_mem_nil, or_false] at member
  rcases member with rfl | rfl | rfl
  · exact update_tolerant (readChoice_tolerant _)
      fun role => ({ draft with role := some role } : MessageDraft)
  · exact update_tolerant (readOptional_tolerant readString_tolerant)
      fun name => ({ draft with name := some name } : MessageDraft)
  · exact update_tolerant readString_tolerant
      fun content => ({ draft with content := some content } : MessageDraft)

/-- Blanks around a text have nothing to do with which message it spells, if any. -/
theorem decode_surrounded {before after : Bytes} (text : Bytes)
    (beforeBlank : ∀ byte ∈ before, isSpace byte = true)
    (afterBlank : ∀ byte ∈ after, isSpace byte = true) :
    (decode Message (before ++ (text ++ after))).toOption = (decode Message text).toOption := by
  have passed : readWhole readMessage (before ++ (text ++ after)) =
      readWhole readMessage (text ++ after) := by
    rw [readWhole, readMessage, readRecord_blank messageRecord beforeBlank]
    rfl
  have tolerant : IsTolerant readMessage := readRecord_tolerant messageRecord_tolerant
  have behind : BlankBehind text (text ++ after) := ⟨after, afterBlank, rfl⟩
  have forgets (outcome : Except Fault Message) :
      (outcome.mapError WireError.mk).toOption = outcome.toOption := by
    cases outcome <;> rfl
  show ((readWhole readMessage _).mapError _).toOption =
    ((readWhole readMessage text).mapError _).toOption
  rw [forgets, forgets, passed, tolerant.readWhole behind]

/-- Wherever the payload of a message is cut, be it within an escape, a keyword or a character
of several bytes, it is refused because it has ended too early. With anything but blanks
behind, it is refused as no JSON text; and blanks before and behind change nothing. -/
theorem decode_damaged (message : Message) :
    (∀ start more, more ≠ [] → bytes (encode message) = start ++ more →
      decode Message start = .error ⟨.truncated⟩) ∧
    (∀ extra, (∃ byte ∈ extra, isSpace byte = false) →
      decode Message (bytes (encode message) ++ extra) = .error ⟨.malformed⟩) ∧
    ∀ before after, (∀ byte ∈ before, isSpace byte = true) →
      (∀ byte ∈ after, isSpace byte = true) →
      decode Message (before ++ (bytes (encode message) ++ after)) = .ok message := by
  have written : bytes (encode message) = utf8 (write message.toJson) := Text.bytes_ofList _
  have taken (rest : Bytes) :
      readMessage (bytes (encode message) ++ rest) = .ok (message, rest) := by
    rw [written]
    exact readMessage_reads message rest
  refine ⟨?_, ?_, ?_⟩
  · intro start more isNonempty parted
    rw [written] at parted
    have failed : readMessage start = .error .truncated :=
      readMessage_cut ⟨more, isNonempty, parted⟩
    show (readWhole readMessage start).mapError WireError.mk = _
    rw [readWhole_of_fault failed]
    rfl
  · rintro extra ⟨byte, member, notBlank⟩
    have remains : (skipSpace extra).isEmpty = false := by
      rw [List.isEmpty_eq_false_iff]
      intro nothing
      have blank := List.dropWhile_eq_nil_iff.mp nothing byte member
      rw [notBlank] at blank
      cases blank
    show (readWhole readMessage _).mapError WireError.mk = _
    rw [readWhole_of_taken (taken extra), remains]
    rfl
  · intro before after beforeBlank afterBlank
    have nothing : skipSpace after = [] := List.dropWhile_eq_nil_iff.mpr afterBlank
    have passed : readMessage (before ++ (bytes (encode message) ++ after)) =
        .ok (message, after) := by
      rw [readMessage, readRecord_blank messageRecord beforeBlank]
      exact taken after
    show (readWhole readMessage _).mapError WireError.mk = _
    rw [readWhole_of_taken passed, nothing]
    rfl

/-- A name of one character with two bytes, and a content that is written as an escape. -/
def escapedMessage : Message := { role := .user, name := some "é", content := "\x01" }

/-- Cut between the two bytes of the name, and cut within the escape; with a comma behind; and
with a tab before and a line break behind. -/
theorem decode_escapedMessage :
    decode Message (utf8 "\x7b\"role\":\"user\",\"name\":\"".toList ++ [0xC3]) =
        .error ⟨.truncated⟩ ∧
      decode Message (utf8 "\x7b\"role\":\"user\",\"name\":\"é\",\"content\":\"\\u00".toList) =
        .error ⟨.truncated⟩ ∧
      decode Message (bytes (encode escapedMessage) ++ [0x20, 0x2C]) = .error ⟨.malformed⟩ ∧
      decode Message ([0x09] ++ (bytes (encode escapedMessage) ++ [0x0D, 0x0A])) =
        .ok escapedMessage := by
  obtain ⟨cut, extended, surrounded⟩ := decode_damaged escapedMessage
  refine ⟨?_, ?_, ?_, ?_⟩
  · exact cut _ (0xA9 :: utf8 "\",\"content\":\"\\u0001\"\x7d".toList) (by simp) (by decide +kernel)
  · exact cut _ (utf8 "01\"\x7d".toList) (by decide) (by decide +kernel)
  · exact extended _ ⟨0x2C, by decide, by decide⟩
  · exact surrounded _ _ (by simp [isSpace]) (by simp [isSpace])

end PromptRelay
