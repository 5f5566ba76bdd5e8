import Mathlib.Data.List.Nodup
import NodeAdmission.Proofs.Course

/-!
# Nodes of the control plane

A node of the control plane is trusted when its record is made, and from then on it is left alone.

* `Course.on_trial` — whatever a cycle asks about a listed node of the control plane, it asks
  because the node is on trial. The scan itself asks nothing, for it probes workers only.
* `Trial.recorded_before` — such a trial needs a record from before, and one that is not trusted: a
  record of this scan would be a trusted one.
* `control_plane_left_alone` — the main statement, from these two.

The exception is not an empty one. The labels of a node are not looked at again once there is a
record. A node that was a worker at first, could not be reached then and became a node of the
control plane during its cooldown is tried and expelled like a worker
(`relabelled_control_plane_expelled`).

The statements are about a name that is listed once. Of two entries with one name the first may be a
worker, and then the second has the record of a worker.
-/

namespace NodeAdmission.Admission

open Cluster (Node)

variable {settings : Settings} {env : Environment ω} {c c' : Controller ω} {nodes : List Node}
  {node : Node} {e : Entry} {es : List Entry} {outcome : CycleOutcome}

section Listed

variable (hlist : (c.session.listNodes env).1 = .ok nodes)
  (hdistinct : (nodes.map Node.name).Nodup) (hmem : node ∈ nodes)
  (hexempt : node.isControlPlane settings.controlPlaneLabels = true)
include hlist hdistinct hmem hexempt

/-- A listed node of the control plane is on trial only if it was recorded before, without trust. -/
theorem Trial.recorded_before (t : Trial settings env c) (hname : t.node = node.name) :
    ∃ r, c.registry.get? node.name = some r ∧ r.verified = false := by
  cases hr : c.registry.get? node.name with
  | some r =>
    rw [← hname] at hr
    exact ⟨r, rfl, (t.unverified_before hr).1⟩
  | none =>
    -- The scan made the record, for a worker; but no other entry has this name.
    have hrecorded := t.recorded
    rw [hname] at hrecorded
    obtain ⟨es, hsurvey⟩ := c.scan_survey settings env
    obtain ⟨nodes', hlist', m, hm, hmname, hmade⟩ := hsurvey.created hr hrecorded
    obtain rfl : nodes = nodes' := Except.ok.inj (hlist.symm.trans hlist')
    obtain rfl := List.inj_on_of_nodup_map hdistinct hm hmem hmname
    have hworker := hmade.exempt
    rw [t.unverified, hexempt] at hworker
    cases hworker

/-- A scan probes workers, and the only entry of this name is none. -/
theorem Survey.not_asked {result : Except AdmissionError (Option String)}
    (h : Survey settings env c es result c') (he : e ∈ es) :
    e.event.request.node? ≠ some node.name := by
  intro hname
  obtain ⟨nodes', hlist', m, hm, ip, reachable, hevent, hworker, -⟩ := h.probed he hname
  rw [hevent] at hname
  obtain rfl : nodes = nodes' := Except.ok.inj (hlist.symm.trans hlist')
  obtain rfl := List.inj_on_of_nodup_map hdistinct hm hmem (Option.some.inj hname)
  rw [hexempt] at hworker
  cases hworker

/-- Whatever a cycle asks about the node, it asks in a trial, so it is no probe. -/
theorem Course.on_trial (h : Course settings env c es outcome c') (hkeyed : c.registry.Keyed)
    (he : e ∈ es) (hname : e.event.request.node? = some node.name) :
    (∃ t : Trial settings env c, t.node = node.name) ∧
      ∀ ip, e.event.request ≠ .probe node.name ip := by
  -- By the stage of the cycle to which the call belongs.
  cases h.callOf he with
  | scan hsurvey he =>
    exact absurd hname (hsurvey.not_asked hlist hdistinct hmem hexempt he)
  | attempt t hcalls hattempt he =>
    obtain ⟨hrecord, hprobe⟩ := hattempt.node_eq (List.mem_map_of_mem he) hname
    exact ⟨⟨t, (hrecord.trans (t.record_name hkeyed)).symm⟩, hprobe⟩
  | step t hevent =>
    rw [hevent] at hname ⊢
    exact ⟨⟨t, Option.some.inj hname⟩, nofun⟩

/-- What a cycle does about a node that is listed as one of the control plane, under a name that is
listed once. It does not probe it. Nor does the scan find it or the cycle ask anything else about
it, unless the node was recorded before and is not trusted. -/
theorem control_plane_left_alone (hc : c.Reachable settings env) :
    let es := Turn.entries settings env ⟨c, .cycle⟩
    (∀ e ∈ events es, ∀ ip, e.request ≠ .probe node.name ip) ∧
      ((∃ r, c.registry.get? node.name = some r ∧ r.verified = false) ∨
        (c.scan settings env).1 ≠ .ok (some node.name) ∧
          ∀ e ∈ events es, e.request.node? ≠ some node.name) := by
  intro es
  have hcourse : Course settings env c es _ _ := Turn.course_of_cycle (t := ⟨c, .cycle⟩) rfl
  -- Whatever is asked about the node belongs to a trial of it, and is no probe.
  have hasked : ∀ event ∈ events es, event.request.node? = some node.name →
      (∃ t : Trial settings env c, t.node = node.name) ∧
        ∀ ip, event.request ≠ .probe node.name ip := by
    intro event hevent hname
    obtain ⟨e, he, rfl⟩ := List.mem_map.mp hevent
    exact hcourse.on_trial hlist hdistinct hmem hexempt hc.keyed he hname
  refine ⟨?_, ?_⟩
  · intro event hevent ip hprobe
    have hname : event.request.node? = some node.name := by rw [hprobe]; rfl
    exact (hasked event hevent hname).2 ip hprobe
  · -- Either there is a trial of the node, or neither a find nor a call can be about it.
    by_cases htrial : ∃ t : Trial settings env c, t.node = node.name
    · obtain ⟨t, ht⟩ := htrial
      exact .inl (t.recorded_before hlist hdistinct hmem hexempt ht)
    · refine .inr ⟨?_, ?_⟩
      · exact fun hfound => htrial (Trial.of_found hfound)
      · exact fun event hevent hname => htrial (hasked event hevent hname).1

end Listed

/-! ### A worker that joins the control plane -/

def promotedWorker : Node :=
  { sampleWorker with labels := .insert .empty "node-role.kubernetes.io/master" "true" }

/-- The worker is listed as a node of the control plane later on, and its agent does not answer. -/
def promotionEnvironment : Environment Unit :=
  { relistedEnvironment promotedWorker with
    version := fun _ => pure (.error (.unexpectedStatus 503 "down")) }

/-- A node that was of the control plane at first sight is passed over for good. -/
theorem exempt_node_left_alone :
    let c := Controller.run sampleSettings promotionEnvironment (.new ())
      [.sleep (.ofMillis 1000), .cycle]
    let es := Turn.entries sampleSettings promotionEnvironment ⟨c, .cycle⟩
    (c.session.listNodes promotionEnvironment).1 = .ok [promotedWorker] ∧
      promotedWorker.isControlPlane sampleSettings.controlPlaneLabels = true ∧
      (∀ e ∈ events es, ∀ ip, e.request ≠ .probe "worker" ip) ∧
      ((∃ r, c.registry.get? "worker" = some r ∧ r.verified = false) ∨
        (c.scan sampleSettings promotionEnvironment).1 ≠ .ok (some "worker") ∧
          ∀ e ∈ events es, e.request.node? ≠ some "worker") := by
  intro c es
  have hlist : (c.session.listNodes promotionEnvironment).1 = .ok [promotedWorker] := rfl
  have hexempt : promotedWorker.isControlPlane sampleSettings.controlPlaneLabels = true := by decide
  exact ⟨hlist, hexempt, control_plane_left_alone hlist (by simp) (by simp) hexempt ⟨(), _, rfl⟩⟩

/-- A worker that could not be reached and is listed as a node of the control plane when its
cooldown is over: the scan finds it, its agent is called, and it is cordoned, drained and deleted.
-/
theorem relabelled_control_plane_expelled :
    let c := Controller.run sampleSettings promotionEnvironment (.new ()) cooldownMoves
    (c.session.listNodes promotionEnvironment).1 = .ok [promotedWorker] ∧
      promotedWorker.isReady = true ∧
      promotedWorker.isControlPlane sampleSettings.controlPlaneLabels = true ∧
      (c.scan sampleSettings promotionEnvironment).1 = .ok (some "worker") ∧
      events (Turn.entries sampleSettings promotionEnvironment ⟨c, .cycle⟩) =
        [.listed (.ok [promotedWorker]),
          .asked "worker" "10.0.0.7" (.error (.unexpectedStatus 503 "down")),
          .applied .cordon "worker" (.ok ()), .applied .drain "worker" (.ok ()),
          .applied .delete "worker" (.ok ())] :=
  ⟨rfl, by decide, by decide, rfl, rfl⟩

end NodeAdmission.Admission
