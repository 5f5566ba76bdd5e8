import NodeAdmission.Admission.Record
import NodeAdmission.Cluster.Orchestrator
import NodeAdmission.Http.Call

/-!
# Sessions

Admission decides by asking others: the orchestrator, the probe, the agent of a node and the crypto
service. An `Environment` is all of them together with the source of challenges. A `Session` is what
has come to pass between the control loop and its environment: the present instant, how many
challenges were drawn, and a log of every call with its beginning, its end and its answer.

Calls are made only through `Session.call`, so nothing escapes the log, which grows at its end and
in the order of time. Challenges are drawn by number and never twice, whatever becomes of them. The
log is no part of the program: nothing is decided by it, and it is there to be reasoned about.
-/

namespace NodeAdmission.Admission

open Cluster (Node OrchestratorError Step)
open Http (RemoteError)

/-- The agents and the crypto service. -/
structure Peers (ω : Type) where
  /-- Asks the agent at an address for its version. -/
  version : (ip : String) → Timed ω (Except RemoteError String)
  /-- Asks the agent at an address to encrypt a challenge. -/
  encrypt : (ip challenge : String) → Timed ω (Except RemoteError String)
  /-- Registers a client identity with the crypto service. -/
  register : (client : String) → Timed ω (Except RemoteError Unit)
  /-- Decrypts a ciphertext with a key of a client identity. -/
  decrypt : (client key ciphertext : String) → Timed ω (Except RemoteError Bytes)

/-- Everything that admission depends on. -/
structure Environment (ω : Type) extends Peers ω where
  /-- The challenges in the order in which they are drawn. -/
  challenges : Nat → Challenge
  /-- Lists the nodes of the cluster. -/
  listNodes : Timed ω (Except OrchestratorError (List Node))
  /-- Takes a step against a node. -/
  apply : Step → (node : String) → Timed ω (Except OrchestratorError Unit)
  /-- Tells whether an address can be reached. -/
  probe : (ip : String) → Timed ω Bool

/-- A call and its answer. -/
inductive Event where
  | listed (result : Except OrchestratorError (List Node))
  | applied (step : Step) (node : String) (result : Except OrchestratorError Unit)
  | probed (node ip : String) (reachable : Bool)
  | asked (node ip : String) (result : Except RemoteError String)
  | challenged (node ip challenge : String) (result : Except RemoteError String)
  | registered (client : String) (result : Except RemoteError Unit)
  | decrypted (client key ciphertext : String) (result : Except RemoteError Bytes)
  | slept (interval : Duration)

/-- An event and the time that it took. -/
structure Entry where
  began : Instant
  ended : Instant
  event : Event

/-- What has come to pass. -/
structure Session (ω : Type) where
  world : ω
  now : Instant := 0
  /-- How many challenges were drawn. -/
  drawn : Nat := 0
  log : List Entry := []

namespace Session

def call (s : Session ω) (action : Timed ω α) (event : α → Event) : α × Session ω :=
  let r := action s.now s.world
  let ended := s.now + r.elapsed
  (r.value,
    { s with world := r.world, now := ended, log := s.log ++ [⟨s.now, ended, event r.value⟩] })

def draw (s : Session ω) (env : Environment ω) : Challenge × Session ω :=
  (env.challenges s.drawn, { s with drawn := s.drawn + 1 })

/-! ### The calls

Each one asks the environment one thing and writes down what was asked, of whom, and what came back.
A call about a node is written down with its name and its address. -/

def listNodes (s : Session ω) (env : Environment ω) :
    Except OrchestratorError (List Node) × Session ω :=
  s.call env.listNodes .listed

def apply (s : Session ω) (env : Environment ω) (step : Step) (node : String) :
    Except OrchestratorError Unit × Session ω :=
  s.call (env.apply step node) (.applied step node)

def probe (s : Session ω) (env : Environment ω) (node ip : String) : Bool × Session ω :=
  s.call (env.probe ip) (.probed node ip)

def version (s : Session ω) (env : Environment ω) (r : NodeRecord) :
    Except RemoteError String × Session ω :=
  s.call (env.version r.ip) (.asked r.name r.ip)

def encrypt (s : Session ω) (env : Environment ω) (r : NodeRecord) (c : Challenge) :
    Except RemoteError String × Session ω :=
  s.call (env.encrypt r.ip c.text) (.challenged r.name r.ip c.text)

def register (s : Session ω) (env : Environment ω) (client : String) :
    Except RemoteError Unit × Session ω :=
  s.call (env.register client) (.registered client)

def decrypt (s : Session ω) (env : Environment ω) (client key ciphertext : String) :
    Except RemoteError Bytes × Session ω :=
  s.call (env.decrypt client key ciphertext) (.decrypted client key ciphertext)

def sleep (s : Session ω) (interval : Duration) : Session ω :=
  (s.call (.sleep interval) fun _ => .slept interval).2

/-! ### What a call leaves behind -/

@[simp] theorem call_drawn (s : Session ω) (action : Timed ω α) (event : α → Event) :
    (s.call action event).2.drawn = s.drawn := rfl

end Session
end NodeAdmission.Admission
