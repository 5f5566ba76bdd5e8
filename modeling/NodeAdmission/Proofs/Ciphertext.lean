import Mathlib.Logic.ExistsUnique
import NodeAdmission.Admission.Verification
import NodeAdmission.Proofs.Base64Bits

/-!
# Ciphertexts that are forwarded

Before an agent's answer is forwarded it is checked, and what passes is base64 of something: exactly
the texts that spell a byte string, in the sense of `Base64.Spells`, which must not be empty.

* `checkCiphertext_of_spelling`, `of_checkCiphertext` — spellings pass, and what passes is one.
* `checkCiphertext_cases` — the check has three ends, which exclude each other. So what is known of
  one of them gives the other two.
* `checkCiphertext_classifies` — the main statement.

The reader is as strict as the writer, so no byte string has two spellings that pass. A check that
only asked whether the text can be read would say the same here; for a lenient reader it would not.
-/

namespace NodeAdmission.Admission

variable {text : String} {bytes : Bytes}

/-- A text that is not empty passes if it can be read. -/
theorem checkCiphertext_of_decode (hne : text ≠ "")
    (hdecode : Base64.decode (Utf8.encode text) = .ok bytes) : checkCiphertext text = .ok () := by
  rw [checkCiphertext, if_neg hne, hdecode]

theorem checkCiphertext_of_spelling (hne : bytes ≠ [])
    (h : Utf8.encode text = Base64.encode bytes) : checkCiphertext text = .ok () := by
  refine checkCiphertext_of_decode ?_ (Base64.decode_eq_ok_iff.mpr h)
  rintro rfl
  exact Base64.encode_ne_nil hne h.symm

/-- What passes is the spelling of some bytes. -/
theorem of_checkCiphertext (h : checkCiphertext text = .ok ()) :
    ∃ bytes, bytes ≠ [] ∧ Utf8.encode text = Base64.encode bytes := by
  have hne : text ≠ "" := by
    intro hempty
    simp [checkCiphertext, hempty] at h
  cases hdecode : Base64.decode (Utf8.encode text) with
  | error e => simp [checkCiphertext, hne, hdecode] at h
  | ok bytes =>
    have hspelling := Base64.decode_eq_ok_iff.mp hdecode
    refine ⟨bytes, ?_, hspelling⟩
    -- Nothing at all is the spelling of no bytes.
    rintro rfl
    exact hne (Utf8.encode_injective hspelling)

theorem checkCiphertext_cases (text : String) :
    text = "" ∧ checkCiphertext text = .error (.agentEncryptFailed "empty ciphertext") ∨
      text ≠ "" ∧ checkCiphertext text = .ok () ∨
      text ≠ "" ∧ ∃ detail, checkCiphertext text = .error (.decryptMismatch detail) := by
  by_cases hempty : text = ""
  · exact .inl ⟨hempty, by rw [checkCiphertext, if_pos hempty]⟩
  cases hdecode : Base64.decode (Utf8.encode text) with
  | error e => exact .inr (.inr ⟨hempty, _, by rw [checkCiphertext, if_neg hempty, hdecode]⟩)
  | ok bytes => exact .inr (.inl ⟨hempty, checkCiphertext_of_decode hempty hdecode⟩)

/-- The texts that pass, by the rules of base64 in bits. -/
theorem checkCiphertext_ok_iff :
    checkCiphertext text = .ok () ↔ ∃ bytes, bytes ≠ [] ∧ Base64.Spells text bytes := by
  constructor
  · intro h
    obtain ⟨bytes, hne, hspelling⟩ := of_checkCiphertext h
    exact ⟨bytes, hne, Base64.spells_iff.mpr hspelling⟩
  · rintro ⟨bytes, hne, hspells⟩
    exact checkCiphertext_of_spelling hne (Base64.spells_iff.mp hspells)

/-- What passes is what is read and would be written again as it is. -/
theorem checkCiphertext_ok_iff_round_trip :
    checkCiphertext text = .ok () ↔ text ≠ "" ∧ ∃ bytes,
      Base64.decode (Utf8.encode text) = .ok bytes ∧ Base64.encode bytes = Utf8.encode text := by
  constructor
  · intro h
    obtain ⟨bytes, hne, hspelling⟩ := of_checkCiphertext h
    refine ⟨?_, bytes, Base64.decode_eq_ok_iff.mpr hspelling, hspelling.symm⟩
    rintro rfl
    exact Base64.encode_ne_nil hne hspelling.symm
  · rintro ⟨hne, bytes, hdecode, -⟩
    exact checkCiphertext_of_decode hne hdecode

/-- The empty text is a failure of the agent. A text passes just if it is the base64 spelling of a
byte string that is not empty, which is to say that it can be read and that the bytes that are read
are written like this. Any other text is a mismatch. Every byte string that is not empty has one
text that passes and is read as it. -/
theorem checkCiphertext_classifies :
    (∀ text : String,
      ((∃ detail, checkCiphertext text = .error (.agentEncryptFailed detail)) ↔ text = "") ∧
      (checkCiphertext text = .ok () ↔ ∃ bytes, bytes ≠ [] ∧ Base64.Spells text bytes) ∧
      (checkCiphertext text = .ok () ↔ text ≠ "" ∧ ∃ bytes,
        Base64.decode (Utf8.encode text) = .ok bytes ∧
          Base64.encode bytes = Utf8.encode text) ∧
      ((∃ detail, checkCiphertext text = .error (.decryptMismatch detail)) ↔
        text ≠ "" ∧ ¬ ∃ bytes, bytes ≠ [] ∧ Base64.Spells text bytes)) ∧
    ∀ bytes : Bytes, bytes ≠ [] → ∃! text : String,
      checkCiphertext text = .ok () ∧ Base64.decode (Utf8.encode text) = .ok bytes := by
  constructor
  · intro text
    refine ⟨?_, checkCiphertext_ok_iff, checkCiphertext_ok_iff_round_trip, ?_⟩
    · rcases checkCiphertext_cases text with ⟨rfl, h⟩ | ⟨hne, h⟩ | ⟨hne, detail, h⟩
      · simp [h]
      · simp [hne, h]
      · simp [hne, h]
    · rw [← checkCiphertext_ok_iff]
      rcases checkCiphertext_cases text with ⟨rfl, h⟩ | ⟨hne, h⟩ | ⟨hne, detail, h⟩
      · simp [h]
      · simp [hne, h]
      · simp [hne, h]
  · intro bytes hne
    have hspelling := Base64.encode_spelling bytes
    refine ⟨Base64.spelling bytes, ⟨checkCiphertext_of_spelling hne hspelling,
      Base64.decode_eq_ok_iff.mpr hspelling⟩, ?_⟩
    -- Two texts that are read as the same bytes have the same bytes themselves.
    rintro other ⟨-, hdecode⟩
    exact Utf8.encode_injective ((Base64.decode_eq_ok_iff.mp hdecode).trans hspelling.symm)

/-- The last letter of a spelling holds bits that are not the bytes', and they must be zero. -/
example : checkCiphertext "TQ==" = .ok () ∧ checkCiphertext "TR==" = .error
    (.decryptMismatch "ciphertext is not base64: Invalid last symbol 82, offset 1.") :=
  ⟨rfl, rfl⟩

end NodeAdmission.Admission
