import NodeAdmission.Http.Call
import NodeAdmission.Http.Interface

/-!
# The interface of the agent

The agent tells its version, tells that it is healthy, and encrypts what is posted to it. A body is
encrypted exactly as it was posted; one that is too large, no text or empty is refused before
anybody is asked to encrypt it.

* `messageOf` — the three reasons to refuse a body, in the order in which they are checked. The size
  comes first, since a body that is too large is not read to its end.
* `Encryptor` — who encrypts is left open; in a deployment it is the crypto service
  (`NodeAdmission.Agent.Service`).
* `interface` — the routes.
-/

namespace NodeAdmission.Agent

open Http (Answer Interface RemoteError Work)

def interfaceVersion : String := "1.0"

/-- The largest body that is accepted, in bytes. -/
def bodyLimit : Nat := 2097152

structure Identity where
  clientName : String
  keyName : String
deriving DecidableEq, Repr

/-- Encrypts a message with a key of a client identity. -/
abbrev Encryptor (m : Type → Type) :=
  (client key message : String) → m (Work (Except RemoteError String))

/-- The message of a posted body, or the answer that refuses it. -/
def messageOf (body : Bytes) : Except Answer String :=
  if body.length > bodyLimit then
    .error (.text 413 "Failed to buffer the request body: length limit exceeded")
  else
    match Utf8.decode body with
    | .error e => .error (.text 400 ("Request body didn't contain valid UTF-8: " ++ e.message))
    | .ok message =>
      if message = "" then .error (.report 400 "Challenge cannot be empty") else .ok message

def encryptAnswer : Except RemoteError String → Answer
  | .ok ciphertext => .text 200 ciphertext
  | .error e => .report 500 e.message

def encryptPosted [Monad m] (encrypt : Encryptor m) (identity : Identity) (body : Bytes) :
    m Answer :=
  match messageOf body with
  | .error refusal => pure refusal
  | .ok message => do
    let work ← encrypt identity.clientName identity.keyName message
    return work.answer encryptAnswer

def interface [Monad m] (encrypt : Encryptor m) (identity : Identity) : Interface m :=
  [("/version", .get (pure (.text 200 interfaceVersion))),
   ("/health", .get (pure (.empty 200))),
   ("/encrypt", .post (encryptPosted encrypt identity))]

end NodeAdmission.Agent
