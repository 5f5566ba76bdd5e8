import NodeAdmission.Admission.Challenge
import NodeAdmission.Timed

/-!
# Records of nodes

What is remembered of a node that was listed once: where its agent is reached, whether it is
verified, the challenge of an attempt that has begun, and when its last attempt failed. An
attempt begins with a challenge and ends in `NodeRecord.abandonAttempt` or
`NodeRecord.markVerified`; both drop the challenge.
-/

namespace NodeAdmission.Admission

/-- What is remembered of a node. -/
structure NodeRecord where
  name : String
  ip : String
  verified : Bool := false
  /-- The challenge of the attempt that has begun. -/
  challenge? : Option Challenge := none
  /-- The start of the cooldown; without one the node may be tried at once. -/
  nextCheckAt? : Option Instant := none
deriving DecidableEq

namespace NodeRecord

def new (name ip : String) : NodeRecord := { name, ip }

/-- Begins an attempt with a fresh challenge, unless one is pending already. -/
def beginAttempt (r : NodeRecord) (fresh : Challenge) : NodeRecord :=
  { r with challenge? := some (r.challenge?.getD fresh) }

/-- Gives up the attempt; the cooldown starts now. -/
def abandonAttempt (r : NodeRecord) (now : Instant) : NodeRecord :=
  { r with challenge? := none, nextCheckAt? := some now }

def markVerified (r : NodeRecord) : NodeRecord :=
  { r with verified := true, challenge? := none, nextCheckAt? := none }

/-- The node is trusted without a proof. -/
def markExempt (r : NodeRecord) : NodeRecord := r.markVerified

/-- More than the cooldown has passed since it started. An instant before the start counts as the
start. -/
def cooldownElapsed (r : NodeRecord) (now : Instant) (cooldown : Duration) : Bool :=
  match r.nextCheckAt? with
  | none => true
  | some started => now - started > cooldown.nanos

end NodeRecord
end NodeAdmission.Admission
