import NodeAdmission.Subprocess

/-!
# Reachability

The orchestrator may call a node ready before it can be reached, so a node that is seen for the
first time is sent echo requests with the system's `ping`. The probe waits for the program at most
until its deadline, which allows every echo its full wait and a second more.

The wait that the program is told is rounded to whole seconds, and is a second at least
(`Probe.waitArg`), while the deadline is worked out from the wait as it is configured. A deadline
that is no duration is an error of the probe, found before anything is run.
-/

namespace NodeAdmission.Cluster

structure Probe where
  count : UInt32
  wait : Duration

namespace Probe

/-- The seconds that the program is told to wait for each reply: whole ones, and at least one. -/
def waitArg (p : Probe) : Nat := max p.wait.secs 1

def command (p : Probe) (ip : String) : Subprocess.Command :=
  { program := "ping", args := [ip, "-c", toString p.count.toNat, "-W", toString p.waitArg] }

def deadline (p : Probe) : Except Duration.Overflow Duration :=
  -- The deadline allows for one echo at least, whatever the count.
  match p.wait.scale (max p.count.toNat 1) with
  | .error e => .error e
  | .ok d => d.add (.ofSecs 1)

/-- Only a program that ends in time and with success has reached the node. -/
def conclude : Subprocess.Seen → Bool
  | .ended process => process.status.isSuccess
  | .notStarted _ => false
  | .tookTooLong => false

/-- Probes an address. The deadline is worked out first. -/
def run [Monad m] (p : Probe) (runner : Subprocess.Runner m) (ip : String) :
    m (Except Duration.Overflow Bool) :=
  match p.deadline with
  | .error e => pure (.error e)
  | .ok limit => do
    let outcome ← runner (p.command ip)
    return .ok (conclude (outcome.within limit))

end Probe
end NodeAdmission.Cluster
