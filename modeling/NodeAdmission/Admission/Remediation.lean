import NodeAdmission.Admission.Session

/-!
# Remediation

A node that failed verification is expelled: it is cordoned, so that nothing new is placed on it,
drained of what it runs, and deleted. A step is taken only after the one before it succeeded, and
nothing is undone, so a failure leaves the node where it got to. The next remediation of the node
begins again with the first step.
-/

namespace NodeAdmission.Admission

open Cluster (OrchestratorError Step)

inductive RemediationError where
  | stepFailed (node : String) (step : Step) (cause : OrchestratorError)

namespace RemediationError

def step : RemediationError → Step
  | .stepFailed _ step _ => step

def message : RemediationError → String
  | .stepFailed node step cause =>
    "Remediation of " ++ node ++ " stopped at " ++ step.name ++ ": " ++ cause.message

end RemediationError

def remediationSteps : List Step := [.cordon, .drain, .delete]

/-- Takes steps against a node until one fails. -/
def takeSteps (env : Environment ω) (node : String) :
    List Step → Session ω → Except RemediationError Unit × Session ω
  | [], s => (.ok (), s)
  | step :: steps, s =>
    match s.apply env step node with
    | (.error cause, s) => (.error (.stepFailed node step cause), s)
    | (.ok _, s) => takeSteps env node steps s

def remediate (env : Environment ω) (node : String) (s : Session ω) :
    Except RemediationError Unit × Session ω :=
  takeSteps env node remediationSteps s

end NodeAdmission.Admission
