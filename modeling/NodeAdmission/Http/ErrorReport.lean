import NodeAdmission.Json.Basic
import NodeAdmission.Json.Decoder

/-!
# Error reports

The body by which the HTTP interfaces of the agent and of the server report an error.
-/

namespace NodeAdmission.Http

structure ErrorReport where
  error : String
deriving DecidableEq, Repr

namespace ErrorReport

def toJson (r : ErrorReport) : Json := .obj [("error", .str r.error)]

def decoder : Json.Decoder ErrorReport :=
  .record (δ := Option String) [.of "error" .text fun v _ => some v] none fun e => e.map .mk

end ErrorReport
end NodeAdmission.Http
