import NodeAdmission.Duration
import NodeAdmission.Http.Call
import NodeAdmission.Service.Log

/-!
# Bootstrap

A service can do nothing useful until the crypto service knows its client identity, so it
registers before anything else and, if that fails for whatever reason, tries again after a fixed
time. There is no last attempt.

`registerWithin` follows the attempts up to a number of them, so that it can be run and reasoned
about. It makes no difference to the attempts that are made: what the first `n` of them are does not
depend on how many more are allowed. Attempts are counted in 32 bits, as the log shows them.
-/

namespace NodeAdmission.Service

open Http (RemoteError)

/-- What bootstrapping makes use of. -/
structure Registrar (m : Type → Type) where
  /-- Registers a client identity. -/
  register : (client : String) → m (Except RemoteError Unit)
  /-- Lets time pass. -/
  sleep : Duration → m Unit
  /-- Writes a log line. -/
  log : LogLine → m Unit

def bootstrapTarget : String := "nodeauth::bootstrap"

def registeredLine (client : String) (attempts : UInt32) : LogLine :=
  { level := .info, target := bootstrapTarget, message := "Crypto client registered"
    values := [("client", .text client), ("attempts", .number attempts.toNat)] }

def notReadyLine (client : String) (attempts : UInt32) (e : RemoteError) (retry : Duration) :
    LogLine :=
  { level := .warn, target := bootstrapTarget
    message := "Crypto service not ready, retrying in " ++ retry.render
    values :=
      [("client", .text client), ("attempts", .number attempts.toNat), ("error", .text e.message)] }

/-- Registers an identity after `failures` attempts that failed, with at most `budget` more. The
result is how many attempts it took, if it succeeded. -/
def registerFrom [Monad m] (registrar : Registrar m) (client : String) (retry : Duration)
    (failures : UInt32) : (budget : Nat) → m (Option UInt32)
  | 0 => pure none
  | budget + 1 => do
    match ← registrar.register client with
    | .ok _ =>
      registrar.log (registeredLine client (failures + 1))
      return some (failures + 1)
    -- Whatever the error is: also a service that refuses may still be starting.
    | .error e =>
      registrar.log (notReadyLine client (failures + 1) e retry)
      registrar.sleep retry
      registerFrom registrar client retry (failures + 1) budget

def registerWithin [Monad m] (registrar : Registrar m) (client : String) (retry : Duration)
    (budget : Nat) : m (Option UInt32) :=
  registerFrom registrar client retry 0 budget

end NodeAdmission.Service
