import NodeAdmission.Http.Call
import NodeAdmission.Subprocess
import NodeAdmission.Text.Pieces

/-!
# Reports

What a run of the command line leaves: two streams and an exit status. A failure is told with what
was attempted and what caused it:

    Error: Failed to list keys

    Caused by:
        0: HTTP request failed: ...
        1: error sending request

Each line of a cause is indented; several causes are numbered, and one cause alone is not. What a
command has already written to the output stays there (`Failure.report`).
-/

namespace NodeAdmission.Admin

structure Report where
  stdout : String := ""
  stderr : String := ""
  exit : UInt32 := 0
deriving DecidableEq, Repr

/-- Why a command failed: what was attempted, and the causes from the nearest to the farthest. -/
structure Failure where
  attempted : String
  causes : List String := []
deriving DecidableEq, Repr

namespace Failure

/-- The causes of an error of a remote service; a failure of the transport
has a cause of its own. -/
def causesOf : Http.RemoteError → List String
  | .transport f => [(Http.RemoteError.transport f).message, f.message]
  | e => [e.message]

def ofCall (attempted : String) (e : Http.RemoteError) : Failure := ⟨attempted, causesOf e⟩

def ofSystem (attempted : String) (e : OsError) : Failure := ⟨attempted, [e.message]⟩

/-- A text of several lines, of which the first has one margin and the others another. -/
def indent (first later : String) (text : String) : String :=
  first ++ String.intercalate ("\n" ++ later) ((Text.pieces '\n' text.toList).map String.ofList)

/-- A number in five columns. -/
def column (n : Nat) : String :=
  let digits := Numeral.digits n
  String.ofList (List.replicate (5 - digits.length) ' ') ++ digits

def numbered : (number : Nat) → List String → List String
  | _, [] => []
  | n, cause :: causes => indent (column n ++ ": ") "       " cause :: numbered (n + 1) causes

def causeLines : List String → List String
  | [] => []
  -- One cause alone has no number.
  | [cause] => [indent "    " "    " cause]
  | causes => numbered 0 causes

def message (f : Failure) : String :=
  match causeLines f.causes with
  | [] => f.attempted
  | lines => f.attempted ++ "\n\nCaused by:\n" ++ String.intercalate "\n" lines

/-- What a failed run leaves, after what it has written already. -/
def report (f : Failure) (stdout : String) : Report :=
  { stdout, stderr := "Error: " ++ f.message ++ "\n", exit := 1 }

end Failure
end NodeAdmission.Admin
