import NodeAdmission.Proofs.Course

/-!
# Verified nodes

Verification is final: whatever the cluster reports of a verified node from then on, its record
stays as it is and nobody asks for the node again.

* `Controller.scan_keeps_verified` — a scan passes the record over, whether the node is listed or
  not, as a worker or as a node of the control plane, at the old address or at another one.
* `Trial.node_ne` — so no trial is about the node.
* `CallOf.not_about` — so no call is about it either: a probe needs a node without a record, and the
  calls of an attempt and the steps of a remediation are about the node on trial.
* `Turn.leavesAlone` — the step lemma, which puts these together for every kind of turn.
* `run_verification_final` — the run lemma, by induction on the moves.

`Turn.LeavesAlone` looks at the record at every stage of a turn, not only at its end. Otherwise a
cycle could forget the node and record it anew.
-/

namespace NodeAdmission.Admission

open Cluster (Node)

/-- The turn leaves the record `r` of a node alone at every stage, and asks for nothing about the
node. -/
structure Turn.LeavesAlone (settings : Settings) (env : Environment ω) (t : Turn ω) (name : String)
    (r : NodeRecord) : Prop where
  scanned : (t.before.scan settings env).2.registry.get? name = some r
  notFound : (t.before.scan settings env).1 ≠ .ok (some name)
  tried : ∀ trial : Trial settings env t.before, trial.after.registry.get? name = some r
  after : (t.after settings env).registry.get? name = some r
  unasked : ∀ e ∈ events (t.entries settings env), e.request.node? ≠ some name

variable {settings : Settings} {env : Environment ω} {c : Controller ω} {name : String}
  {r : NodeRecord} {e : Entry} {t : Turn ω} {ms : List Move}

/-! ### One turn -/

theorem Trial.node_ne (t : Trial settings env c) (hr : c.registry.get? name = some r)
    (hverified : r.verified = true) : name ≠ t.node := by
  rintro rfl
  have hunverified := (t.unverified_before hr).1
  rw [hverified] at hunverified
  cases hunverified

/-- A scan neither finds a verified node nor changes its record. -/
theorem Controller.scan_keeps_verified (hr : c.registry.get? name = some r)
    (hverified : r.verified = true) :
    (c.scan settings env).1 ≠ .ok (some name) ∧
      (c.scan settings env).2.registry.get? name = some r := by
  have hfound : (c.scan settings env).1 ≠ .ok (some name) := by
    intro hfound
    obtain ⟨t, ht⟩ := Trial.of_found hfound
    exact t.node_ne hr hverified ht.symm
  obtain ⟨es, -, hscan⟩ := c.scan_cases settings env
  exact ⟨hfound, hscan.kept hfound hr⟩

/-- No call of a cycle is about a verified node. -/
theorem CallOf.not_about (h : CallOf settings env c e) (hkeyed : c.registry.Keyed)
    (hr : c.registry.get? name = some r) (hverified : r.verified = true) :
    e.event.request.node? ≠ some name := by
  intro hname
  cases h with
  | scan hsurvey he =>
    -- Only nodes without a record are probed.
    obtain ⟨nodes, -, node, -, ip, reachable, hevent, -, hnone⟩ := hsurvey.probed he hname
    rw [hevent] at hname
    rw [Option.some.inj hname, hr] at hnone
    cases hnone
  | attempt t hcalls hattempt he =>
    -- An attempt names the node of its record, and records are filed under their names.
    have hrecord := (hattempt.node_eq (List.mem_map_of_mem he) hname).1
    rw [t.record_name hkeyed] at hrecord
    exact t.node_ne hr hverified hrecord
  | step t hevent =>
    rw [hevent] at hname
    exact t.node_ne hr hverified (Option.some.inj hname).symm

namespace Turn

/-- The step lemma. -/
theorem leavesAlone (hkeyed : t.before.registry.Keyed) (hr : t.before.registry.get? name = some r)
    (hverified : r.verified = true) : t.LeavesAlone settings env name r := by
  have hscan : (t.before.scan settings env).1 ≠ .ok (some name) ∧ _ :=
    Controller.scan_keeps_verified hr hverified
  obtain ⟨hfound, hscanned⟩ := hscan
  -- Nobody who is verified is on trial.
  have hne : ∀ trial : Trial settings env t.before, name ≠ trial.node :=
    fun trial => trial.node_ne hr hverified
  refine ⟨hscanned, hfound, ?_, ?_, ?_⟩
  · intro trial
    rw [trial.after_puts.other (hne trial), hscanned]
  · -- Whatever the turn does, it writes no record but that of a node on trial.
    cases hmove : t.move with
    | scan =>
      rw [Turn.after, hmove]
      exact hscanned
    | cycle =>
      have hcourse : Course settings env t.before _ _ (t.after settings env) :=
        course_of_cycle hmove
      rw [hcourse.other hne, hscanned]
    | sleep interval =>
      rw [Turn.after, hmove, Controller.move_sleep]
      exact hr
  · intro event hevent
    obtain ⟨e, he, rfl⟩ := List.mem_map.mp hevent
    rcases callOf he with ⟨interval, hslept⟩ | ⟨-, hcall⟩
    · rw [hslept]
      exact (Option.some_ne_none name).symm
    · exact hcall.not_about hkeyed hr hverified

end Turn

/-! ### Runs -/

/-- From a verified record on, all turns of a run leave the node alone. -/
theorem Controller.turns_verified (hkeyed : c.registry.Keyed) (hr : c.registry.get? name = some r)
    (hverified : r.verified = true) :
    ∀ t ∈ c.turns settings env ms,
      t.before.registry.get? name = some r ∧ t.LeavesAlone settings env name r := by
  induction ms generalizing c with
  | nil => exact nofun
  | cons m ms ih =>
    have hfirst : Turn.LeavesAlone settings env ⟨c, m⟩ name r :=
      Turn.leavesAlone hkeyed hr hverified
    intro t ht
    rcases List.mem_cons.mp ht with rfl | ht
    · exact ⟨hr, hfirst⟩
    · exact ih (Turn.keyed (t := ⟨c, m⟩) hkeyed) hfirst.after t ht

/-- Once a run has brought the registry a verified record of a node, every later state of the run
holds this record unchanged. No later scan finds the node, and no later call is about it: it is
neither probed nor challenged, cordoned, drained or deleted. -/
theorem run_verification_final (settings : Settings) (env : Environment ω) (world : ω)
    (ms ns : List Move) {name : String} {r : NodeRecord}
    (hr : (Controller.run settings env (.new world) ms).registry.get? name = some r)
    (hverified : r.verified = true) :
    (Controller.run settings env (.new world) (ms ++ ns)).registry.get? name = some r ∧
      ∀ t ∈ (Controller.run settings env (.new world) ms).turns settings env ns,
        t.before.registry.get? name = some r ∧ t.LeavesAlone settings env name r := by
  have hkeyed := Controller.run_keyed settings env world ms
  refine ⟨?_, Controller.turns_verified hkeyed hr hverified⟩
  rw [Controller.run_append]
  apply Controller.run_induct (P := fun c => c.registry.get? name = some r) hr
  intro t ht _
  exact (Controller.turns_verified hkeyed hr hverified t ht).2.after

/-! ### A verified worker that is listed again -/

/-- The worker is listed twice after its verification, first as not ready and then at another
address and as a node of the control plane. -/
def changedListing : Environment Unit :=
  { sampleEnvironment with
    listNodes := fun now w =>
      ⟨.ok (if now = 0 then [sampleWorker] else
        [{ sampleWorker with conditions := [] },
          { sampleWorker with
            addresses := [⟨"InternalIP", "10.0.0.8"⟩]
            labels := .insert .empty "node-role.kubernetes.io/master" "true" }]), 0, w⟩ }

theorem get?_worker_before_change :
    (Controller.run sampleSettings changedListing (.new ()) [.cycle]).registry.get? "worker" =
      some { name := "worker", ip := "10.0.0.7", verified := true } := rfl

/-- Neither of the two listings is of interest to the controller. -/
theorem changed_worker_left_alone :
    let r : NodeRecord := { name := "worker", ip := "10.0.0.7", verified := true }
    let c := Controller.run sampleSettings changedListing (.new ()) [.cycle]
    let ns := [Move.sleep (.ofMillis 300001), .cycle, .scan]
    c.registry.get? "worker" = some r ∧
      (Controller.run sampleSettings changedListing (.new ()) ([.cycle] ++ ns)).registry.get?
        "worker" = some r ∧
      ∀ t ∈ c.turns sampleSettings changedListing ns, t.before.registry.get? "worker" = some r ∧
        t.LeavesAlone sampleSettings changedListing "worker" r := by
  intro r c ns
  obtain ⟨hafter, hturns⟩ := run_verification_final sampleSettings changedListing () [.cycle] ns
    get?_worker_before_change rfl
  exact ⟨get?_worker_before_change, hafter, hturns⟩

end NodeAdmission.Admission
