import NodeAdmission.Duration
import NodeAdmission.Http.Call
import NodeAdmission.Subprocess
import NodeAdmission.Text.Blank
import NodeAdmission.Text.Pieces

/-!
# Settings of a service

Services are configured by variables. A `Lookup` says which of them are set; a variable that is not
set has a default. Blanks around numbers and around the items of lists do not count. A service that
cannot go on says why by a `ServiceError`.
-/

namespace NodeAdmission.Service

/-- Why a service cannot go on. -/
inductive ServiceError where
  | config (detail : String)
  | client (cause : Http.RemoteError)
  | io (cause : OsError)
deriving DecidableEq, Repr

def ServiceError.message : ServiceError → String
  | .config detail => "Configuration error: " ++ detail
  | .client cause => "Client error: " ++ cause.message
  | .io cause => "IO error: " ++ cause.message

/-- The values of the variables that are set. -/
abbrev Lookup := (key : String) → Option String

namespace Lookup

def text (lookup : Lookup) (key default : String) : String := (lookup key).getD default

def number (lookup : Lookup) (read : String → Except NumeralError α) (key default : String) :
    Except ServiceError α :=
  match read (Text.trim (lookup.text key default)) with
  | .ok n => .ok n
  | .error e => .error (.config (key ++ " must be a valid number: " ++ e.message))

def seconds (lookup : Lookup) (key default : String) : Except ServiceError Duration :=
  (lookup.number Numeral.readUInt64 key default).map Duration.ofSecs

end Lookup

/-- The items of a list that is separated by commas; empty items do not count. -/
def splitList (raw : String) : List String :=
  (((Text.pieces ',' raw.toList).map Text.trimChars).filter (· ≠ [])).map String.ofList

end NodeAdmission.Service
