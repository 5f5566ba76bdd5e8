/-!
# Log lines

A line has a level, the target that it comes from, a message and named values. The target is the
name of the part of the program that writes the line, its parts joined by `::`, and a filter decides
by it (`NodeAdmission.Service.Filter`).
-/

namespace NodeAdmission.Service

inductive Level where
  | error
  | warn
  | info
  | debug
  | trace
deriving DecidableEq, Repr

namespace Level

def name : Level → String
  | .error => "ERROR"
  | .warn => "WARN"
  | .info => "INFO"
  | .debug => "DEBUG"
  | .trace => "TRACE"

/-- The rank of a level; the most urgent one has the least. -/
def rank : Level → Nat
  | .error => 1
  | .warn => 2
  | .info => 3
  | .debug => 4
  | .trace => 5

end Level

inductive LogValue where
  | text (s : String)
  | number (n : Nat)
deriving DecidableEq, Repr

structure LogLine where
  level : Level
  target : String
  message : String
  values : List (String × LogValue) := []
deriving DecidableEq, Repr

/-- Whether a line has a value with a name; its message is one. -/
def LogLine.hasValue (line : LogLine) (name : String) : Bool :=
  name = "message" || line.values.any (·.1 = name)

end NodeAdmission.Service
