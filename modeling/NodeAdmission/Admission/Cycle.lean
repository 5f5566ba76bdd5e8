import NodeAdmission.Admission.Registry
import NodeAdmission.Admission.Remediation
import NodeAdmission.Admission.Verification

/-!
# The control loop

One node is dealt with at a time. A cycle lists the nodes and visits them in the order of the
listing until one is in need of an attempt (`Controller.scan`); that node is verified, and
expelled if it fails (`Controller.runCycle`). Between cycles that found nothing to do the loop
sleeps (`Controller.round`).

What a visit does depends on what is known of the node:

* nodes that are not ready, verified or in their cooldown are passed over;
* a known node whose cooldown is over is returned without a probe, and without another look at its
  labels (`Controller.visitKnown`);
* a node that is seen for the first time is trusted if it belongs to the control plane and probed
  otherwise (`Controller.visitNew`). If it has no address it is passed over, and not recorded.

A node that was probed in vain is recorded with its cooldown, and the scan goes on. So the record
comes before the probe, and the challenge is drawn before it, too.
-/

namespace NodeAdmission.Admission

open Cluster (Node OrchestratorError)

structure Settings where
  /-- The sleep after a cycle that found nothing to do. -/
  scanInterval : Duration
  /-- The time that a node has to wait after an attempt that failed. -/
  retryCooldown : Duration
  /-- The annotation that holds the internal address of a node. -/
  internalIpAnnotation : String
  /-- The labels that mark the nodes of the control plane. -/
  controlPlaneLabels : List String
  identity : Identity

/-- Why a scan found nothing out. -/
inductive AdmissionError where
  | queryFailed (cause : OrchestratorError)

def AdmissionError.message : AdmissionError → String
  | .queryFailed cause => "Orchestrator query failed: " ++ cause.message

inductive CycleOutcome where
  | idle
  | queryFailed
  | verified (node : String)
  | remediated (node : String)
  | remediationFailed (node : String)
deriving DecidableEq, Repr

/-- Nothing was done, so the loop sleeps. -/
def CycleOutcome.isQuiet : CycleOutcome → Bool
  | .idle => true
  | .queryFailed => true
  | .verified _ => false
  | .remediated _ => false
  | .remediationFailed _ => false

/-- The state of the control loop. -/
structure Controller (ω : Type) where
  registry : Registry
  session : Session ω

namespace Controller

def new (world : ω) : Controller ω := { registry := .empty, session := { world } }

/-! ### Visiting a node -/

/-- Begins an attempt on a node that is known, with a fresh challenge unless one is pending. -/
def beginAttempt (env : Environment ω) (c : Controller ω) (name : String) : Controller ω :=
  match c.registry.get? name with
  | none => c
  | some r =>
    match r.challenge? with
    | some _ => c
    | none =>
      let (fresh, session) := c.session.draw env
      { registry := c.registry.modify name (·.beginAttempt fresh), session }

/-- Visits a node that is known: the attempt begins unless the node is
verified or in its cooldown. -/
def visitKnown (settings : Settings) (env : Environment ω) (c : Controller ω) (name : String)
    (r : NodeRecord) : Bool × Controller ω :=
  if r.verified || !r.cooldownElapsed c.session.now settings.retryCooldown then (false, c)
  else (true, c.beginAttempt env name)

/-- Probes a node for which an attempt has begun. If it cannot be reached its cooldown starts
when the probe gives up. -/
def probeNode (env : Environment ω) (c : Controller ω) (name ip : String) : Bool × Controller ω :=
  match c.session.probe env name ip with
  | (true, session) => (true, { c with session })
  | (false, session) =>
    (false, { registry := c.registry.modify name (·.abandonAttempt session.now), session })

/-- Visits a node that is seen for the first time. -/
def visitNew (settings : Settings) (env : Environment ω) (c : Controller ω) (node : Node)
    (ip : String) :
    Bool × Controller ω :=
  let enrolled := { c with registry := c.registry.enroll node.name ip }
  -- Nodes of the control plane are trusted on sight.
  if node.isControlPlane settings.controlPlaneLabels then
    (false, { enrolled with registry := enrolled.registry.modify node.name NodeRecord.markExempt })
  else (enrolled.beginAttempt env node.name).probeNode env node.name ip

/-- Visits a node, and tells whether it is the one to be verified. -/
def visit (settings : Settings) (env : Environment ω) (c : Controller ω) (node : Node) :
    Bool × Controller ω :=
  if !node.isReady then (false, c)
  else
    match c.registry.get? node.name with
    -- What is listed of a known node does not matter any more, but that it is ready.
    | some r => c.visitKnown settings env node.name r
    | none =>
      match node.internalIp? settings.internalIpAnnotation with
      | none => (false, c)
      | some ip => c.visitNew settings env node ip

/-- Visits nodes until one is found that is to be verified. -/
def visitAll (settings : Settings) (env : Environment ω) :
    Controller ω → List Node → Option String × Controller ω
  | c, [] => (none, c)
  | c, node :: nodes =>
    match c.visit settings env node with
    | (true, c) => (some node.name, c)
    | (false, c) => visitAll settings env c nodes

/-- Finds the first node of the cluster that is to be verified. -/
def scan (settings : Settings) (env : Environment ω) (c : Controller ω) :
    Except AdmissionError (Option String) × Controller ω :=
  match c.session.listNodes env with
  | (.error cause, session) => (.error (.queryFailed cause), { c with session })
  | (.ok nodes, session) =>
    let (found, c) := visitAll settings env { c with session } nodes
    (.ok found, c)

/-! ### Cycles -/

/-- Expels a node that failed verification, and forgets it if that succeeds. -/
def expel (env : Environment ω) (c : Controller ω) (name : String) : CycleOutcome × Controller ω :=
  match remediate env name c.session with
  | (.ok _, session) => (.remediated name, { registry := c.registry.evict name, session })
  | (.error _, session) => (.remediationFailed name, { c with session })

def attempt (settings : Settings) (env : Environment ω) (c : Controller ω) (name : String)
    (r : NodeRecord) : CycleOutcome × Controller ω :=
  let (result, after, session) := verify env settings.identity r c.session
  let c := { registry := c.registry.modify name fun _ => after, session }
  match result with
  | .ok _ => (.verified name, c)
  | .error .noPendingChallenge => (.idle, c)
  | .error _ => c.expel env name

def runCycle (settings : Settings) (env : Environment ω) (c : Controller ω) :
    CycleOutcome × Controller ω :=
  match c.scan settings env with
  | (.error _, c) => (.queryFailed, c)
  | (.ok none, c) => (.idle, c)
  | (.ok (some name), c) =>
    match c.registry.get? name with
    | none => (.idle, c)
    | some r => c.attempt settings env name r

/-- A cycle, and a sleep if it found nothing to do. -/
def round (settings : Settings) (env : Environment ω) (c : Controller ω) : Controller ω :=
  match c.runCycle settings env with
  | (outcome, c) =>
    if outcome.isQuiet then { c with session := c.session.sleep settings.scanInterval } else c

/-- The loop up to some number of rounds. -/
def rounds (settings : Settings) (env : Environment ω) : Nat → Controller ω → Controller ω
  | 0, c => c
  | n + 1, c => rounds settings env n (c.round settings env)

/-- The loop up to the first round that begins after an instant, or to some number of rounds. -/
def roundsUntil (settings : Settings) (env : Environment ω) (limit : Instant) :
    Nat → Controller ω → Controller ω
  | 0, c => c
  | n + 1, c =>
    if c.session.now ≤ limit then roundsUntil settings env limit n (c.round settings env) else c

end Controller
end NodeAdmission.Admission
