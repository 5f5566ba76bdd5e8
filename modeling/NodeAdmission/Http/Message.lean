import NodeAdmission.Duration
import NodeAdmission.Http.Url

/-!
# HTTP exchanges, seen from the sender

What a request carries and what can come back. A peer is not modelled: whoever sends a request is
given an `Exchange`, a function from requests to replies in a monad of its choice, and a network
that cannot be reached is the exchange that always answers `Reply.failed .connect`.

A request may go through a proxy (`Request.via`). Then the peer that it is handed to is the proxy,
and for a secure URL the proxy sees no more of it than the host: `methodSeen`, `targetSeen`,
`bodySeen` and `contentTypeSeen` tell what the peer sees.

Of a failure it matters how far the exchange came (`Stage`), since that is what its wording tells.
-/

namespace NodeAdmission.Http

inductive Method where
  | get
  | post
  | delete
deriving DecidableEq, Repr

def Method.name : Method → String
  | .get => "GET"
  | .post => "POST"
  | .delete => "DELETE"

structure Request where
  method : Method
  url : Url
  contentType : Option String
  body : Bytes
  /-- How long the sender waits for the whole answer. -/
  timeout : Duration
  /-- The proxy that passes the request on, if it goes through one. -/
  via : Option Url := none
deriving DecidableEq

namespace Request

/-- Whom the request is handed to. -/
def peer (r : Request) : Url := r.via.getD r.url

/-- Whether the peer is only asked for a tunnel, so that it does not see the request itself. -/
def isTunnelled (r : Request) : Bool := r.via.isSome && r.url.secure

def methodSeen (r : Request) : String := if r.isTunnelled then "CONNECT" else r.method.name

/-- What the peer sees of a path: a proxy is given what comes before it, too. -/
def addressed (r : Request) (path : String) : String :=
  if r.isTunnelled then r.url.host.render ++ ":" ++ toString r.url.portNumber.toNat
  else if r.via.isSome then r.url.origin ++ path
  else path

def targetSeen (r : Request) : String := r.addressed r.url.target

def bodySeen (r : Request) : Bytes := if r.isTunnelled then [] else r.body

def contentTypeSeen (r : Request) : Option String := if r.isTunnelled then none else r.contentType

end Request

/-- How far an exchange came before it failed. -/
inductive Stage where
  /-- The URL could not be used, so nothing was sent. -/
  | builder
  /-- The peer could not be reached. -/
  | connect
  /-- The peer did not answer in time. -/
  | timeout
  /-- The peer closed the connection without answering. -/
  | request
  /-- The body of the answer was cut short. -/
  | body
deriving DecidableEq, Repr

def Stage.name : Stage → String
  | .builder => "builder"
  | .connect => "connect"
  | .timeout => "timeout"
  | .request => "request"
  | .body => "body"

/-- The head of an answer was received, and its body as far as it came. -/
structure Response where
  status : UInt16
  body : Bytes
  /-- Whether the whole body came. -/
  complete : Bool
deriving DecidableEq, Repr

inductive Reply where
  | answered (response : Response)
  | failed (stage : Stage)
deriving DecidableEq, Repr

abbrev Exchange (m : Type → Type) := Request → m Reply

/-- The exchange of a host without a network. -/
def unreachable [Monad m] : Exchange m := fun _ => pure (.failed .connect)

/-- An exchange that failed, with the URL where it is known. -/
structure TransportFailure where
  stage : Stage
  url : Option String
deriving DecidableEq, Repr

namespace TransportFailure

/-- What happened, without the URL. -/
def summary (f : TransportFailure) : String :=
  match f.stage with
  | .builder => "builder error"
  | .connect => "error sending request"
  | .timeout => "error sending request"
  | .request => "error sending request"
  | .body => "error decoding response body"

def message (f : TransportFailure) : String :=
  f.summary ++ (match f.url with | none => "" | some u => " for url (" ++ u ++ ")")

end TransportFailure
end NodeAdmission.Http
