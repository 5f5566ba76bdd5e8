import NodeAdmission.Admission.Peers
import NodeAdmission.Server.Config
import NodeAdmission.Server.Status
import NodeAdmission.Service.Trace
import NodeAdmission.Text.Quoted

/-!
# The server as a service

The server registers with its crypto service, begins to listen, and then does two things side by
side: it runs the control loop and answers requests about the cluster. A run is given the order in
which the two take turns, and stops after the last turn.

* `environment` — what the control loop depends on, made of the host and the configuration.
* `probeOrHalt` — if the probe of a node breaks down, so does the control loop, while requests
  are still answered. From then on nothing that the loop asks for is done (`whileRunning`),
  and its turns are skipped.
* `takeTurn` — a round of the loop, or the answer to a request. The session of the loop goes on
  through the answers, so that time is the same for both.
* `run` — the whole service.
-/

namespace NodeAdmission.Server

open Admission (Controller Environment Peers)
open Service (Ending Host Program Traced)

/-- Does something only as long as the control loop has not broken down. -/
def whileRunning (otherwise : α) (act : Timed (Traced ω) α) : Timed (Traced ω) α := fun now t =>
  if t.halted then ⟨otherwise, 0, t⟩ else act now t

def loopExchange (host : Host ω) : Http.Exchange (Timed (Traced ω)) := fun request =>
  whileRunning (.failed .connect) (host.send request)

def loopRunner (host : Host ω) : Subprocess.Runner (Timed (Traced ω)) := fun command =>
  whileRunning .endless (host.run command)

/-- Probes an address. Waiting times that leave the range of durations break the control loop. -/
def probeOrHalt (config : Config) (host : Host ω) (ip : String) : Timed (Traced ω) Bool := do
  match ← config.probe.run (loopRunner host) ip with
  | .ok reachable => return reachable
  -- Nothing catches the overflow, so the loop ends with it.
  | .error _ => do
    Timed.modify fun t => { t with halted := true }
    return false

def environment (config : Config) (host : Host ω) : Environment (Traced ω) :=
  { toPeers := .overHttp (loopExchange host)
      { port := config.agentPort, timeout := config.requestTimeout }
      (.new config.cryptoUrl config.requestTimeout)
    challenges := host.challenges
    listNodes := config.orchestrator.listNodes (loopRunner host)
    apply := config.orchestrator.apply (loopRunner host)
    probe := probeOrHalt config host }

/-- Lists resources for the status interface. -/
def lister (config : Config) (host : Host ω) : Lister (Timed (Traced ω)) := fun resource => do
  let result ← config.orchestrator.rawListing host.run resource
  return .finished result

/-! ### Taking turns -/

/-- What comes next: a round of the control loop, or the answer to a request. -/
inductive Turn where
  | round
  | request (r : Http.Incoming)

def takeTurn (config : Config) (host : Host ω) (c : Controller (Traced ω)) :
    Turn → Controller (Traced ω)
  | .round =>
    if c.session.world.halted then c else c.round config.settings (environment config host)
  | .request request =>
    -- The registry stays as it is: no handler has access to it.
    let s := c.session
    let r := Host.answer (statusInterface (lister config host)) request s.now s.world
    { c with session := { s with now := s.now + r.elapsed, world := r.world } }

/-- Takes turns with a controller that has seen nothing. -/
def takeTurns (config : Config) (host : Host ω) (turns : List Turn) : Timed (Traced ω) Unit :=
  fun now t =>
    let start : Controller (Traced ω) := { registry := .empty, session := { world := t, now } }
    let s := (turns.foldl (takeTurn config host) start).session
    ⟨(), s.now - now, s.world⟩

/-! ### Running -/

def logTarget : String := "node_auth_server"

def infoLine (message : String) : Service.LogLine :=
  { level := .info, target := logTarget, message }

def run (config : Config) (host : Host ω) (budget : Nat) (turns : List Turn) :
    Timed (Traced ω) Ending := do
  Service.log (infoLine "Starting node authentication server")
  Service.log (infoLine ("Crypto service: " ++ config.cryptoUrl))
  Service.log (infoLine ("Agent port: " ++ toString config.agentPort.toNat))
  Service.log (infoLine ("Control-plane labels: " ++ Text.quotedList config.controlPlaneLabels))
  let crypto := Crypto.Client.new config.cryptoUrl config.requestTimeout
  match ← Service.registerWithin (host.registrar crypto) config.cryptoClientName
      config.bootstrapRetry budget with
  | none => return .unregistered
  | some _ =>
    match ← host.bind config.listenOn with
    | .error e => return .failed (.io e)
    | .ok _ =>
      takeTurns config host turns
      Service.log (infoLine "Node authentication server stopped")
      return .stopped

def program : Program :=
  { target := logTarget
    complaint := "Service error"
    filter := .ofTargets .info ["node_auth_server", "nodeauth", "tower_http"] }

end NodeAdmission.Server
