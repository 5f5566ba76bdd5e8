import NodeAdmission.Cluster.Node
import NodeAdmission.Subprocess
import NodeAdmission.Text.Blank

/-!
# The orchestrator

The cluster is inspected and changed through the orchestrator's command line program. Each
operation runs one command; its output counts only if the program ended in time and with
success (`Kubectl.conclude`).

* `Kubectl.listNodes` — the nodes of the cluster, for the control loop.
* `Kubectl.apply` — a step against a node: cordon, drain or delete.
* `Kubectl.rawListing` — a listing that is passed on. Bytes that are no text are replaced in
  it (`Utf8.decodeLossy`).

The name of a node is a word of its own, so it is not taken apart, whatever characters it holds. It
may be taken for an option all the same, if it begins with a dash.
-/

namespace NodeAdmission.Cluster

inductive OrchestratorError where
  | spawn (command : String) (cause : OsError)
  | timeout (command : String) (limit : Duration)
  | commandFailed (command status stderr : String)
  | malformed (cause : Json.DecodeError)
deriving DecidableEq

def OrchestratorError.message : OrchestratorError → String
  | .spawn command cause => "Failed to run `" ++ command ++ "`: " ++ cause.message
  | .timeout command limit => "`" ++ command ++ "` timed out after " ++ limit.render
  | .commandFailed command status stderr =>
    "`" ++ command ++ "` exited with " ++ status ++ ": " ++ stderr
  | .malformed cause => "Malformed orchestrator response: " ++ cause.message

/-- The steps by which a node is expelled, in the order in which they are taken. -/
inductive Step where
  | cordon
  | drain
  | delete
deriving DecidableEq, Repr

def Step.name : Step → String
  | .cordon => "cordon"
  | .drain => "drain"
  | .delete => "delete"

/-- What can be listed verbatim. -/
inductive Resource where
  | nodes
  | pods
deriving DecidableEq, Repr

def Resource.name : Resource → String
  | .nodes => "nodes"
  | .pods => "pods"

/-- The command line program of the orchestrator and how it is run. -/
structure Kubectl where
  program : String
  kubeconfig : Option String
  timeout : Duration

namespace Kubectl

def listArgs (r : Resource) : List String := ["get", r.name, "-o", "json"]

/-- The words of a step; the name of the node is one of them. -/
def stepArgs (step : Step) (node : String) : List String :=
  match step with
  | .cordon => ["cordon", node]
  -- Pods of daemon sets stay; pods without a controller and local data are given up.
  | .drain => ["drain", node, "--ignore-daemonsets", "--force", "--delete-emptydir-data"]
  | .delete => ["delete", "node", node]

def command (k : Kubectl) (args : List String) : Subprocess.Command :=
  { program := k.program
    args := (match k.kubeconfig with | some path => ["--kubeconfig", path] | none => []) ++ args }

/-- The command as errors name it. -/
def shown (k : Kubectl) (args : List String) : String :=
  k.program ++ " " ++ String.intercalate " " args

/-- What is seen of the command counts as its output only after success. -/
def conclude (k : Kubectl) (args : List String) : Subprocess.Seen → Except OrchestratorError Bytes
  | .notStarted e => .error (.spawn (k.shown args) e)
  | .tookTooLong => .error (.timeout (k.shown args) k.timeout)
  | .ended p =>
    if p.status.isSuccess then .ok p.stdout
    else
      .error (.commandFailed (k.shown args) p.status.message
        (Text.trim (Utf8.decodeLossy p.stderr)))

/-- Output counts only of a program that ended in time and with success. -/
theorem conclude_within_eq_ok_iff {k : Kubectl} {args : List String} {outcome : Subprocess.Outcome}
    {raw : Bytes} : k.conclude args (outcome.within k.timeout) = .ok raw ↔
      ∃ lasting p, outcome = .ended lasting p ∧ lasting ≤ k.timeout.timer ∧
        p.status.isSuccess = true ∧ p.stdout = raw := by
  constructor
  · intro h
    cases outcome with
    | notStarted e | endless => cases h
    | ended lasting p =>
      by_cases htime : lasting ≤ k.timeout.timer
      · cases hstatus : p.status.isSuccess <;>
          simp [Subprocess.Outcome.within, conclude, htime, hstatus] at h
        exact ⟨lasting, p, rfl, htime, hstatus, h⟩
      · simp [Subprocess.Outcome.within, conclude, htime] at h
  · rintro ⟨lasting, p, rfl, htime, hstatus, rfl⟩
    simp [Subprocess.Outcome.within, conclude, htime, hstatus]

def run [Monad m] (k : Kubectl) (runner : Subprocess.Runner m) (args : List String) :
    m (Except OrchestratorError Bytes) := do
  let outcome ← runner (k.command args)
  return k.conclude args (outcome.within k.timeout)

theorem run_eq_map [Monad m] [LawfulMonad m] (k : Kubectl) (runner : Subprocess.Runner m)
    (args : List String) :
    k.run runner args =
      (fun outcome => k.conclude args (outcome.within k.timeout)) <$> runner (k.command args) := by
  rw [run, bind_pure_comp]

def nodesOf (raw : Bytes) : Except OrchestratorError (List Node) :=
  (readListing raw).mapError .malformed

def listNodes [Monad m] (k : Kubectl) (runner : Subprocess.Runner m) :
    m (Except OrchestratorError (List Node)) := do
  let raw ← k.run runner (listArgs .nodes)
  return raw.bind nodesOf

def apply [Monad m] (k : Kubectl) (runner : Subprocess.Runner m) (step : Step) (node : String) :
    m (Except OrchestratorError Unit) := do
  let raw ← k.run runner (stepArgs step node)
  return raw.map fun _ => ()

/-- Lists a resource without looking into the listing. -/
def rawListing [Monad m] (k : Kubectl) (runner : Subprocess.Runner m) (r : Resource) :
    m (Except OrchestratorError String) := do
  let raw ← k.run runner (listArgs r)
  return raw.map Utf8.decodeLossy

end Kubectl
end NodeAdmission.Cluster
