import NodeAdmission.Agent.Interface
import NodeAdmission.Cluster.Orchestrator

/-!
# The status interface

Besides admission the server shows the cluster: its listings of nodes and pods are passed on as they
are, without looking into them, so that a listing that admission could not read is shown all the
same. The interface can only list; nothing that is asked of it changes the cluster or what admission
knows, and it has no access to the registry.
-/

namespace NodeAdmission.Server

open Cluster (OrchestratorError Resource)
open Http (Answer Interface Work)

abbrev Lister (m : Type → Type) := Resource → m (Work (Except OrchestratorError String))

def listingAnswer : Except OrchestratorError String → Answer
  | .ok listing => { status := 200, contentType := some Answer.json, body := Utf8.encode listing }
  | .error e => .report 500 e.message

def showListing [Monad m] (list : Lister m) (r : Resource) : m Answer := do
  let work ← list r
  return work.answer listingAnswer

def statusInterface [Monad m] (list : Lister m) : Interface m :=
  [("/version", .get (pure (.text 200 Agent.interfaceVersion))),
   ("/health", .get (pure (.empty 200))),
   ("/nodes", .get (showListing list .nodes)),
   ("/pods", .get (showListing list .pods))]

end NodeAdmission.Server
