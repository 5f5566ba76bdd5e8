import NodeAdmission.Json.Basic
import NodeAdmission.Json.Decoder

/-!
# What the crypto service is sent and what it answers

Every request to the service is a `Crypto.Request`; fields that an operation does not need are left
out. It answers with text, raw bytes, a list of `KeyInfo`, or, when it fails, a `Fault` with a code.

Each type has a spelling as `Json` and a decoder, and `decode` gives back what was written. A
decoder fills in a draft, field by field, which is complete if all that is required is there. A
field that is left out and one that is `null` are both absent; an empty text is neither.
-/

namespace NodeAdmission.Crypto

open Json (Decoder)

/-! ### Requests -/

structure Request where
  /-- The client identity that is acted for. -/
  name : String
  keyName : Option String := none
  message : Option String := none
  sign : Option String := none
deriving DecidableEq, Repr

namespace Request

def client (name : String) : Request := { name }

def key (name keyName : String) : Request := { name, keyName := some keyName }

/-- The request with a message; an earlier message is replaced. -/
def withMessage (r : Request) (message : String) : Request := { r with message := some message }

/-- The request with a signature; an earlier signature is replaced. -/
def withSign (r : Request) (sign : String) : Request := { r with sign := some sign }

def member (name : String) : Option String → List (String × Json)
  | none => []
  | some s => [(name, .str s)]

def toJson (r : Request) : Json :=
  .obj (("Name", .str r.name) ::
    (member "KeyName" r.keyName ++ member "Message" r.message ++ member "Sign" r.sign))

/-- A request of which only some fields are known. -/
structure Draft where
  name : Option String := none
  keyName : Option (Option String) := none
  message : Option (Option String) := none
  sign : Option (Option String) := none

def decoder : Decoder Request :=
  .record (δ := Draft)
    [.of "Name" .text fun v d => { d with name := some v },
     .of "KeyName" (.optional .text) fun v d => { d with keyName := some v },
     .of "Message" (.optional .text) fun v d => { d with message := some v },
     .of "Sign" (.optional .text) fun v d => { d with sign := some v }]
    {}
    fun d => d.name.map fun name =>
      { name, keyName := d.keyName.join, message := d.message.join, sign := d.sign.join }

end Request

/-! ### Answers -/

/-- A key that the service keeps for a client identity. -/
structure KeyInfo where
  name : String
  providerId : UInt32
deriving DecidableEq, Repr

namespace KeyInfo

def toJson (k : KeyInfo) : Json :=
  .obj [("Name", .str k.name), ("ProviderID", .int k.providerId.toNat)]

/-- A key of which only some fields are known. -/
structure Draft where
  name : Option String := none
  providerId : Option Int := none

def decoder : Decoder KeyInfo :=
  .record (δ := Draft)
    [.of "Name" .text fun v d => { d with name := some v },
     .of "ProviderID" (.int 0 4294967295) fun v d => { d with providerId := some v }]
    {}
    fun d => do
      let name ← d.name
      let providerId ← d.providerId
      return { name, providerId := UInt32.ofNat providerId.toNat }

def listToJson (ks : List KeyInfo) : Json := .arr (ks.map toJson)

def listDecoder : Decoder (List KeyInfo) := .list decoder

end KeyInfo

/-- The body of an answer by which the service reports a failure. -/
structure Fault where
  code : Int32
deriving DecidableEq, Repr

namespace Fault

def toJson (f : Fault) : Json := .obj [("Code", .int f.code.toInt)]

def decoder : Decoder Fault :=
  .record (δ := Option Int)
    [.of "Code" (.int (-2147483648) 2147483647) fun v _ => some v]
    none
    fun code => code.map fun c => ⟨Int32.ofInt c⟩

end Fault
end NodeAdmission.Crypto
