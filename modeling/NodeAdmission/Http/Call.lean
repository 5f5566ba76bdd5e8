import NodeAdmission.Crypto.Wire
import NodeAdmission.Http.Message

/-!
# Calls to remote services

A `Call` is one request together with the reading of its answer. The answer counts only with
status 200; every other status is an error that says so, with the code of the service's
fault if the body holds one.

* `RemoteError` — the four ways to fail. `RemoteError.isAnswer` tells the errors that a peer
  answered with from those of the transport.
* `Call.conclude` — what a reply means, without sending anything.
* `Call.perform` — sends the request, if the URL is one that a request can be sent to.
-/

namespace NodeAdmission.Http

inductive RemoteError where
  | transport (failure : TransportFailure)
  | unexpectedStatus (status : UInt16) (body : String)
  | serviceFailure (status : UInt16) (code : Int32)
  | invalidResponse (detail : String)
deriving DecidableEq, Repr

namespace RemoteError

def message : RemoteError → String
  | .transport f => "HTTP request failed: " ++ f.message
  | .unexpectedStatus status body => "Unexpected status " ++ toString status.toNat ++ ": " ++ body
  | .serviceFailure status code =>
    "Crypto service failed with status " ++ toString status.toNat ++ ", code " ++
      Numeral.whole code.toInt
  | .invalidResponse detail => "Invalid response: " ++ detail

/-- Whether the peer answered, as opposed to a failure on the way. -/
def isAnswer : RemoteError → Bool
  | .unexpectedStatus _ _ => true
  | .serviceFailure _ _ => true
  | .transport _ => false
  | .invalidResponse _ => false

end RemoteError

/-- One request and the reading of its answer. -/
structure Call (α : Type) where
  method : Method
  /-- The URL as it was put together, which may turn out not to be one. -/
  url : String
  contentType : Option String
  body : Bytes
  timeout : Duration
  /-- Reads an answer with status 200. -/
  read : Response → Except RemoteError α

namespace Call

def cutBody : RemoteError := .transport ⟨.body, none⟩

/-- Needs nothing of the body. -/
def readNothing (_ : Response) : Except RemoteError Unit := .ok ()

def readBytes (r : Response) : Except RemoteError Bytes :=
  if r.complete then .ok r.body else .error cutBody

def readText (r : Response) : Except RemoteError String := (readBytes r).map Utf8.decodeLossy

/-- The error that an answer with another status than 200 stands for. A body that was cut
short counts as empty. -/
def failure (r : Response) : RemoteError :=
  let body := if r.complete then Utf8.decodeLossy r.body else ""
  -- The text is read once more, so a fault counts also where bytes had to be replaced.
  match Crypto.Fault.decoder.decode (Utf8.encode body) with
  | .ok fault => .serviceFailure r.status fault.code
  | .error _ => .unexpectedStatus r.status body

def conclude (call : Call α) (url : Url) : Reply → Except RemoteError α
  | .failed stage => .error (.transport ⟨stage, some url.render⟩)
  | .answered r => if r.status = 200 then call.read r else .error (failure r)

/-- The URL of the call, if a request can be sent to it. -/
def destination (call : Call α) : Except TransportFailure Url :=
  match Url.read call.url with
  | .error _ => .error ⟨.builder, none⟩
  | .ok url => if url.isSendable then .ok url else .error ⟨.builder, some url.render⟩

def request (call : Call α) (url : Url) : Request :=
  { method := call.method, url, contentType := call.contentType, body := call.body
    timeout := call.timeout }

/-- Sends the request and reads the answer. Without a usable URL nothing is sent. -/
def perform [Monad m] (exchange : Exchange m) (call : Call α) : m (Except RemoteError α) :=
  match call.destination with
  | .error failure => pure (.error (.transport failure))
  | .ok url => do
    let reply ← exchange (call.request url)
    return call.conclude url reply

end Call
end NodeAdmission.Http
