import NodeAdmission.Admission.Session
import NodeAdmission.Base64

/-!
# Verification

A node proves that it holds its key: its agent encrypts the pending challenge, the crypto service
decrypts what the agent answered, and the plaintext must be the challenge. The steps are taken in
one order and the first that fails decides (`exchange`):

1. the agent tells its version, as a sign of life;
2. the agent encrypts the challenge, and what it answers has to be base64 of something;
3. the server registers with the crypto service, which does no harm if it is registered;
4. the crypto service decrypts what the agent answered;
5. the plaintext is compared with the challenge.

Whatever the outcome, the attempt is over afterwards: `verify` marks the record verified, or it
starts the cooldown at the time at which the failing step returned.
-/

namespace NodeAdmission.Admission

open Http (RemoteError)

/-- The client identity of the server and the key that opens what the agents encrypt. -/
structure Identity where
  clientName : String
  keyName : String
deriving DecidableEq, Repr

inductive VerificationError where
  | agentUnreachable (detail : String)
  | agentEncryptFailed (detail : String)
  | cryptoServiceUnavailable (detail : String)
  | decryptMismatch (detail : String)
  | noPendingChallenge
deriving DecidableEq, Repr

def VerificationError.message : VerificationError → String
  | .agentUnreachable detail => "Agent unreachable: " ++ detail
  | .agentEncryptFailed detail => "Agent failed to encrypt challenge: " ++ detail
  | .cryptoServiceUnavailable detail => "Crypto service unavailable: " ++ detail
  | .decryptMismatch detail => "Challenge mismatch: " ++ detail
  | .noPendingChallenge => "No challenge pending for node"

/-- What an agent answers is forwarded as it is; it only has to be base64 of something. -/
def checkCiphertext (ciphertext : String) : Except VerificationError Unit :=
  if ciphertext = "" then .error (.agentEncryptFailed "empty ciphertext")
  else
    match Base64.decode (Utf8.encode ciphertext) with
    | .ok _ => .ok ()
    | .error e => .error (.decryptMismatch ("ciphertext is not base64: " ++ e.message))

/-- A service that answers with a refusal could not decrypt the ciphertext with the key; any other
error says nothing about the ciphertext. -/
def decryptError (e : RemoteError) : VerificationError :=
  if e.isAnswer then .decryptMismatch ("decrypt rejected: " ++ e.message)
  else .cryptoServiceUnavailable e.message

/-- The plaintext must be the challenge, byte for byte. -/
def comparePlaintext (plaintext : Bytes) (c : Challenge) : Except VerificationError Unit :=
  if plaintext = Utf8.encodeChars c.chars then .ok ()
  else .error (.decryptMismatch "plaintext differs from challenge")

/-- The second half of an exchange, with the crypto service. -/
def exchangeWithService (env : Environment ω) (identity : Identity) (c : Challenge)
    (ciphertext : String) (s : Session ω) : Except VerificationError Unit × Session ω :=
  match s.register env identity.clientName with
  | (.error e, s) => (.error (.cryptoServiceUnavailable e.message), s)
  | (.ok _, s) =>
    match s.decrypt env identity.clientName identity.keyName ciphertext with
    | (.error e, s) => (.error (decryptError e), s)
    | (.ok plaintext, s) => (comparePlaintext plaintext c, s)

/-- The exchange of a challenge: agent first, then crypto service. -/
def exchangeChallenge (env : Environment ω) (identity : Identity) (r : NodeRecord) (c : Challenge)
    (s : Session ω) : Except VerificationError Unit × Session ω :=
  match s.version env r with
  | (.error e, s) => (.error (.agentUnreachable e.message), s)
  | (.ok _, s) =>
    match s.encrypt env r c with
    | (.error e, s) => (.error (.agentEncryptFailed e.message), s)
    | (.ok ciphertext, s) =>
      match checkCiphertext ciphertext with
      | .error e => (.error e, s)
      | .ok _ => exchangeWithService env identity c ciphertext s

/-- The exchange of the pending challenge; without one nobody is called. -/
def exchange (env : Environment ω) (identity : Identity) (r : NodeRecord) (s : Session ω) :
    Except VerificationError Unit × Session ω :=
  match r.challenge? with
  -- Not after a scan, which hands over only nodes with a pending challenge.
  | none => (.error .noPendingChallenge, s)
  | some c => exchangeChallenge env identity r c s

def NodeRecord.afterExchange (r : NodeRecord) (now : Instant) :
    Except VerificationError Unit → NodeRecord
  | .ok _ => r.markVerified
  | .error _ => r.abandonAttempt now

/-- One attempt: its outcome, the record afterwards and the session. -/
def verify (env : Environment ω) (identity : Identity) (r : NodeRecord) (s : Session ω) :
    Except VerificationError Unit × NodeRecord × Session ω :=
  let (result, s) := exchange env identity r s
  (result, r.afterExchange s.now result, s)

end NodeAdmission.Admission
