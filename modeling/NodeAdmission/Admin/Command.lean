import NodeAdmission.Duration

/-!
# Commands of the operator

What an operator can ask for: to manage a client identity of the crypto service and its keys. All
commands but a few are one operation of the service (`Crypto.Client.Operation`); what else they do
is in `NodeAdmission.Admin.Run`. How they are spelled is in `NodeAdmission.Admin.Arguments`.
-/

namespace NodeAdmission.Admin

/-- Where the line of a public key comes from. -/
inductive KeySource where
  | file (path : String)
  | line (text : String)
deriving DecidableEq, Repr

inductive Command where
  | register
  | unregister
  | keys
  | purgeKeys (confirmed : Bool)
  | createEncryptionKey (key : String)
  | createSigningKey (key : String)
  | exportKey (key : String) (out : Option String)
  | importKey (key : String) (source : KeySource)
  | deleteKey (key : String)
  | sign (key message : String)
  | verify (key message signature : String)
  | encrypt (key message : String)
  | decrypt (key ciphertext : String)
deriving DecidableEq, Repr

structure Options where
  cryptoUrl : String
  /-- The client identity that is acted for. -/
  name : String
  timeout : UInt64
  /-- Whether results are written for machines. -/
  json : Bool
  command : Command
deriving DecidableEq, Repr

end NodeAdmission.Admin
