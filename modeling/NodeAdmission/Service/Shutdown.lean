/-!
# Shutdown

A service runs until it is asked to stop by one of two signals.
-/

namespace NodeAdmission.Service

inductive ShutdownReason where
  | interrupt
  | terminate
deriving DecidableEq, Repr

namespace ShutdownReason

def signal : ShutdownReason → String
  | .interrupt => "SIGINT"
  | .terminate => "SIGTERM"

def label : ShutdownReason → String
  | .interrupt => "Interrupt"
  | .terminate => "Terminate"

/-- The reason for which a signal stands. -/
def ofSignal? (name : String) : Option ShutdownReason :=
  if name = "SIGINT" then some .interrupt
  else if name = "SIGTERM" then some .terminate
  else none

end ShutdownReason
end NodeAdmission.Service
