import NodeAdmission.Crypto.Wire
import NodeAdmission.Proofs.JsonWriting

/-!
# What is sent to the crypto service

Every request to the crypto service says what it was made of (`Request.decode_toJson`): whichever
optional fields it has, and whatever characters they consist of. A field that is absent is not
written at all, so it is told apart from a field with nothing in it.
-/

namespace NodeAdmission.Crypto.Request

/-- The body of a request is decoded to the request. -/
theorem decode_toJson (q : Request) : decoder.decode q.toJson.bytes = .ok q := by
  have hread : decoder (Json.parsed q.toJson) = .ok q := by
    obtain ⟨name, keyName, message, sign⟩ := q
    -- By the fields that are there.
    cases keyName <;> cases message <;> cases sign <;>
      simp [toJson, member, Json.parsed, Json.parsedMembers, decoder, Json.Decoder.record,
        Json.Decoder.members, Json.Decoder.Field.of, Json.Decoder.optional, Json.Decoder.text,
        Except.map]
  rw [Json.Decoder.decode, Json.read_bytes]
  simp only [hread]
  rfl

end NodeAdmission.Crypto.Request
