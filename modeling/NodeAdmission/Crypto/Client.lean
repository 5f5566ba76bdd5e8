import NodeAdmission.Http.Call

/-!
# The client of the crypto service

The service keeps key pairs on behalf of named client identities. Each operation is a `Call` that
posts a `Crypto.Request` to a path below the base URL; method and path tell the operations apart.

* `Client.judge` — the verdict on a signature. The service has no answer of its own for a signature
  that is not valid: it answers with a failure, and every such answer counts as a rejection.
* `Operation`, `Result` — the operations as data, with what they give back.
* `Client.perform` — runs an operation and keeps track of whether the last change of registration
  that succeeded was a registration.
-/

namespace NodeAdmission.Crypto

open Http (Call RemoteError Exchange)

structure Client where
  /-- The URL that paths are appended to, without a slash at its end. -/
  baseUrl : String
  timeout : Duration
  /-- Whether an identity is registered as far as this client knows. -/
  registered : Bool := false

namespace Client

def dropSlashes (s : String) : String :=
  String.ofList (s.toList.reverse.dropWhile (· = '/')).reverse

def new (url : String) (timeout : Duration) : Client := { baseUrl := dropSlashes url, timeout }

def call (c : Client) (method : Http.Method) (path : String) (request : Request)
    (read : Http.Response → Except RemoteError α) : Call α :=
  { method
    url := c.baseUrl ++ path
    contentType := some "application/json"
    body := request.toJson.bytes
    timeout := c.timeout
    read }

def readKeys (r : Http.Response) : Except RemoteError (List KeyInfo) :=
  match Call.readBytes r with
  | .error e => .error e
  | .ok body =>
    match KeyInfo.listDecoder.decode body with
    | .ok keys => .ok keys
    | .error e => .error (.invalidResponse ("key list: " ++ e.message))

/-! ### Client identities -/

/-- Registers a client identity; repeating it does no harm. -/
def register (c : Client) (name : String) : Call Unit :=
  c.call .post "/client" (.client name) Call.readNothing

def remove (c : Client) (name : String) : Call Unit :=
  c.call .delete "/client" (.client name) Call.readNothing

/-! ### Keys -/

def listKeys (c : Client) (name : String) : Call (List KeyInfo) :=
  c.call .get "/keys" (.client name) readKeys

def deleteAllKeys (c : Client) (name : String) : Call Unit :=
  c.call .delete "/keys" (.client name) Call.readNothing

def createSigningKey (c : Client) (name key : String) : Call Unit :=
  c.call .post "/keysign" (.key name key) Call.readNothing

def createEncryptionKey (c : Client) (name key : String) : Call Unit :=
  c.call .post "/keyenc" (.key name key) Call.readNothing

def exportKey (c : Client) (name key : String) : Call String :=
  c.call .get "/key" (.key name key) Call.readText

def importKey (c : Client) (name key line : String) : Call Unit :=
  c.call .post "/key" ((Request.key name key).withMessage line) Call.readNothing

def deleteKey (c : Client) (name key : String) : Call Unit :=
  c.call .delete "/key" (.key name key) Call.readNothing

/-! ### Using keys -/

def sign (c : Client) (name key message : String) : Call String :=
  c.call .post "/sign" ((Request.key name key).withMessage message) Call.readText

/-- Verifies a signature; `judge` says what the outcome means. -/
def verify (c : Client) (name key message signature : String) : Call Unit :=
  c.call .post "/verify" (((Request.key name key).withMessage message).withSign signature)
    Call.readNothing

/-- What the outcome of `verify` says about the signature: an answer that is
a failure rejects it. -/
def judge : Except RemoteError Unit → Except RemoteError Bool
  | .ok _ => .ok true
  | .error e => if e.isAnswer then .ok false else .error e

def encrypt (c : Client) (name key message : String) : Call String :=
  c.call .post "/encrypt" ((Request.key name key).withMessage message) Call.readText

def decrypt (c : Client) (name key ciphertext : String) : Call Bytes :=
  c.call .post "/decrypt" ((Request.key name key).withMessage ciphertext) Call.readBytes

/-! ### Operations -/

/-- The operations of the service with their arguments. -/
inductive Operation where
  | register (name : String)
  | remove (name : String)
  | listKeys (name : String)
  | deleteAllKeys (name : String)
  | createSigningKey (name key : String)
  | createEncryptionKey (name key : String)
  | exportKey (name key : String)
  | importKey (name key line : String)
  | deleteKey (name key : String)
  | sign (name key message : String)
  | verify (name key message signature : String)
  | encrypt (name key message : String)
  | decrypt (name key ciphertext : String)
deriving DecidableEq, Repr

/-- What an operation that succeeds gives back. -/
inductive Result where
  | done
  | text (s : String)
  | bytes (b : Bytes)
  | valid (b : Bool)
  | keys (ks : List KeyInfo)
deriving DecidableEq, Repr

def send [Monad m] (c : Client) (exchange : Exchange m) : Operation → m (Except RemoteError Result)
  | .register n => return (← (c.register n).perform exchange).map fun _ => .done
  | .remove n => return (← (c.remove n).perform exchange).map fun _ => .done
  | .listKeys n => return (← (c.listKeys n).perform exchange).map .keys
  | .deleteAllKeys n => return (← (c.deleteAllKeys n).perform exchange).map fun _ => .done
  | .createSigningKey n k => return (← (c.createSigningKey n k).perform exchange).map fun _ => .done
  | .createEncryptionKey n k =>
    return (← (c.createEncryptionKey n k).perform exchange).map fun _ => .done
  | .exportKey n k => return (← (c.exportKey n k).perform exchange).map .text
  | .importKey n k line => return (← (c.importKey n k line).perform exchange).map fun _ => .done
  | .deleteKey n k => return (← (c.deleteKey n k).perform exchange).map fun _ => .done
  | .sign n k message => return (← (c.sign n k message).perform exchange).map .text
  | .verify n k message signature =>
    return (judge (← (c.verify n k message signature).perform exchange)).map .valid
  | .encrypt n k message => return (← (c.encrypt n k message).perform exchange).map .text
  | .decrypt n k ciphertext => return (← (c.decrypt n k ciphertext).perform exchange).map .bytes

/-- The client after an operation: only a registration or a removal that succeeded changes it. -/
def after (c : Client) : Operation → Except RemoteError Result → Client
  | .register _, .ok _ => { c with registered := true }
  | .remove _, .ok _ => { c with registered := false }
  | _, _ => c

def perform [Monad m] (c : Client) (exchange : Exchange m) (op : Operation) :
    m (Except RemoteError Result × Client) := do
  let r ← c.send exchange op
  return (r, c.after op r)

end Client
end NodeAdmission.Crypto
