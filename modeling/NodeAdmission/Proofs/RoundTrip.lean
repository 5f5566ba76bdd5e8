import NodeAdmission.Http.Interface
import NodeAdmission.Proofs.Faults
import NodeAdmission.Proofs.Wire

/-!
# Bodies are read back

The bodies that travel between the services are written as JSON without blanks. Each is read back as
what it was written from: whatever characters its texts consist of, up to the limits of its numbers,
and with each optional field as it was, be it absent, empty or not.

* `ReadsBack` — the property, one for each of the five kinds of bodies.
  `KeyInfo.decoder_parsed`, `Fault.decoder_parsed` and their like have it for the value, and
  `decode_compact` leads from the text to the value.
* `Request.spells_fields` — the text of a request has the fields that are given and no others. It
  does not follow from the round trip, for a reader might skip a field that it does not know.
* `Request.extend_eq` — a message or a signature that is given several times has its last value.
* `written_bodies_read_back` — the main statement.
-/

namespace NodeAdmission

open Json (Decoder Means Spells)

/-- What is written of a value is read as this value. -/
def ReadsBack (toJson : α → Json) (decoder : Decoder α) : Prop :=
  ∀ a, decoder.decode (Utf8.encode (toJson a).compact) = .ok a

/-- The text of a written value is read by way of the value alone. -/
theorem Json.Decoder.decode_compact (d : Decoder α) (j : Json) :
    d.decode (Utf8.encode j.compact) = d (parsed j) := by
  rw [decode, encode_compact, read_bytes]
  simp only
  cases d (parsed j) <;> rfl

/-! ### Answers -/

namespace Crypto

theorem KeyInfo.decoder_parsed (k : KeyInfo) : decoder (Json.parsed k.toJson) = .ok k := by
  have hlt := k.providerId.toNat_lt
  have hid : Decoder.int 0 4294967295 (.number (Json.numberOf k.providerId.toNat)) =
      .ok k.providerId.toNat := Decoder.int_numberOf (by decide) (by decide) (by omega)
  simp [toJson, Json.parsed, Json.parsedMembers, decoder, Decoder.record, Decoder.members,
    Decoder.Field.of, Decoder.text, hid, Except.map]

theorem KeyInfo.items_parsed (ks : List KeyInfo) :
    Decoder.items decoder (Json.parsedItems (ks.map toJson)) = .ok ks := by
  induction ks with
  | nil => rfl
  | cons k ks ih =>
    rw [List.map_cons, Json.parsedItems, Decoder.items, decoder_parsed, ih]
    rfl

theorem KeyInfo.listDecoder_parsed (ks : List KeyInfo) :
    listDecoder (Json.parsed (listToJson ks)) = .ok ks := by
  show Decoder.list decoder (.array (Json.parsedItems (ks.map toJson)) .closed) = _
  rw [Decoder.list, items_parsed]
  rfl

/-- The code of a fault fits 32 bits, so it is read. -/
theorem Fault.decoder_parsed (f : Fault) : decoder (Json.parsed f.toJson) = .ok f := by
  have hcode : Decoder.int (-2147483648) 2147483647 (.number (Json.numberOf f.code.toInt)) =
      .ok f.code.toInt :=
    Decoder.int_numberOf (by decide) (by decide)
      ⟨f.code.le_toInt, Int.le_of_lt_add_one f.code.toInt_lt⟩
  show decoder
    (.object ([] ++ (Json.pieces "Code", .number (Json.numberOf f.code.toInt)) :: []) .closed) = _
  rw [decoder_of_members (by simp) (Json.textOf_pieces "Code") (by simp), hcode, Except.map,
    Int32.ofInt_toInt]

end Crypto

theorem Http.ErrorReport.decoder_parsed (r : ErrorReport) :
    decoder (Json.parsed r.toJson) = .ok r := by
  simp [toJson, Json.parsed, Json.parsedMembers, decoder, Decoder.record, Decoder.members,
    Decoder.Field.of, Decoder.text, Except.map]

/-- The error that is reported is read out of the answer. -/
theorem Http.Answer.decode_report (status : UInt16) (error : String) :
    ErrorReport.decoder.decode (report status error).body = .ok ⟨error⟩ := by
  show ErrorReport.decoder.decode (ErrorReport.mk error).toJson.bytes = _
  rw [← Json.encode_compact, Decoder.decode_compact, ErrorReport.decoder_parsed]

/-! ### Requests -/

namespace Crypto.Request

/-- The fields that are given, in the order in which they are written. -/
def fields (r : Request) : List String :=
  "Name" :: [("KeyName", r.keyName), ("Message", r.message), ("Sign", r.sign)].filterMap
    fun field => field.2.map fun _ => field.1

/-- The text of a request has the fields that are given, each once, and no others. -/
theorem spells_fields (r : Request) :
    ∃ ms, Spells r.toJson.compact.toList (.object ms .closed) ∧
      List.Forall₂ (fun m name => Means m.1 name.toList) ms r.fields := by
  let written := ("Name", Json.str r.name) ::
    (member "KeyName" r.keyName ++ member "Message" r.message ++ member "Sign" r.sign)
  have hfields : r.fields = written.map Prod.fst := by
    obtain ⟨name, keyName, message, sign⟩ := r
    cases keyName <;> cases message <;> cases sign <;> rfl
  refine ⟨Json.parsedMembers written, ?_, hfields ▸ Json.means_parsedMembers written⟩
  rw [Json.compact, String.toList_ofList]
  exact Json.spells_compactChars r.toJson

/-- A message or a signature for a request. -/
inductive Part where
  | message (text : String)
  | sign (text : String)

def Part.message? : Part → Option String
  | .message text => some text
  | .sign _ => none

def Part.sign? : Part → Option String
  | .message _ => none
  | .sign text => some text

def add (r : Request) : Part → Request
  | .message text => r.withMessage text
  | .sign text => r.withSign text

/-- The request with parts that are given one after another. -/
def extend (r : Request) (parts : List Part) : Request := parts.foldl add r

/-- Of the parts of a kind the last one counts. -/
theorem extend_eq (r : Request) (parts : List Part) :
    r.extend parts = { r with
      message := (parts.filterMap Part.message?).getLast?.or r.message
      sign := (parts.filterMap Part.sign?).getLast?.or r.sign } := by
  induction parts generalizing r with
  | nil => rfl
  -- The first part counts only if no other of its kind follows.
  | cons part parts ih =>
    rw [extend, List.foldl_cons, ← extend, ih]
    cases part with
    | message text =>
      cases h : (parts.filterMap Part.message?).getLast? <;>
        simp [add, withMessage, Part.message?, Part.sign?, List.getLast?_cons, h]
    | sign text =>
      cases h : (parts.filterMap Part.sign?).getLast? <;>
        simp [add, withSign, Part.message?, Part.sign?, List.getLast?_cons, h]

end Crypto.Request

/-! ### All bodies -/

open Crypto (Fault KeyInfo Request)

/-- Every body is read back as what it was written from. The text of a request names the fields that
are given and no others; and of a request that was made for a client or a key, with messages and
signatures added in any order, just the last message and the last signature arrive. -/
theorem written_bodies_read_back :
    ReadsBack Request.toJson Request.decoder ∧ ReadsBack KeyInfo.toJson KeyInfo.decoder ∧
    ReadsBack KeyInfo.listToJson KeyInfo.listDecoder ∧ ReadsBack Fault.toJson Fault.decoder ∧
    ReadsBack Http.ErrorReport.toJson Http.ErrorReport.decoder ∧
    (∀ r : Request, ∃ ms, Spells r.toJson.compact.toList (.object ms .closed) ∧
      List.Forall₂ (fun m name => Means m.1 name.toList) ms r.fields) ∧
    ∀ (name : String) (parts : List Request.Part),
      let message := (parts.filterMap Request.Part.message?).getLast?
      let sign := (parts.filterMap Request.Part.sign?).getLast?
      let arrived (r : Request) :=
        Request.decoder.decode (Utf8.encode (r.extend parts).toJson.compact)
      arrived (.client name) = .ok { name, keyName := none, message, sign } ∧
        ∀ keyName, arrived (.key name keyName) =
          .ok { name, keyName := some keyName, message, sign } := by
  have hrequest : ReadsBack Request.toJson Request.decoder := by
    intro r
    rw [Json.encode_compact, Request.decode_toJson]
  refine ⟨hrequest, ?_, ?_, ?_, ?_, Request.spells_fields, ?_⟩
  · intro k
    rw [Decoder.decode_compact, KeyInfo.decoder_parsed]
  · intro ks
    rw [Decoder.decode_compact]
    -- A list has no decoder of records, so it is opened one step further.
    show Decoder.list KeyInfo.decoder (.array _ .closed) = _
    rw [Decoder.list, KeyInfo.items_parsed]
    rfl
  · intro f
    rw [Decoder.decode_compact, Fault.decoder_parsed]
  · intro r
    rw [Decoder.decode_compact, Http.ErrorReport.decoder_parsed]
  · intro name parts message sign arrived
    constructor
    · show Request.decoder.decode _ = _
      -- Parts that were added have gone into the fields already, the last of each kind.
      rw [hrequest, Request.extend_eq]
      simp [Request.client, message, sign]
    · intro keyName
      show Request.decoder.decode _ = _
      rw [hrequest, Request.extend_eq]
      simp [Request.key, message, sign]

end NodeAdmission
