import NodeAdmission.Proofs.Course
import NodeAdmission.Proofs.Report

/-!
# Outcomes of runs

`Controller.outcomes` lists what the cycles of a run came to, in their order, and forgets scans and
sleeps. An outcome names a node just if its cycle had one on trial, and it is this node
(`Course.node?_eq`, `Turn.trial_of_outcome?`). So what is known of trials can be said of outcomes,
which is how results on whole runs are stated.
-/

namespace NodeAdmission.Admission

def Turn.outcome? (settings : Settings) (env : Environment ω) (t : Turn ω) : Option CycleOutcome :=
  match t.move with
  | .cycle => some (t.before.runCycle settings env).1
  | .scan | .sleep _ => none

def Controller.outcomes (settings : Settings) (env : Environment ω) (c : Controller ω)
    (ms : List Move) : List CycleOutcome :=
  (c.turns settings env ms).filterMap (·.outcome? settings env)

/-- The node is ready, has an address, and is not of the control plane. -/
def Settings.isWorker (settings : Settings) (node : Cluster.Node) : Bool :=
  node.isReady && (node.internalIp? settings.internalIpAnnotation).isSome &&
    !node.isControlPlane settings.controlPlaneLabels

def Move.isCycle : Move → Bool
  | .cycle => true
  | .scan => false
  | .sleep _ => false

variable {settings : Settings} {env : Environment ω} {c c' : Controller ω} {name : String}
  {es : List Entry} {outcome : CycleOutcome} {t : Turn ω} {ms : List Move}

/-! ### Workers -/

section Workers

variable {node : Cluster.Node} {r : NodeRecord}

theorem Settings.isWorker_iff : settings.isWorker node = true ↔ node.isReady = true ∧
    (∃ ip, node.internalIp? settings.internalIpAnnotation = some ip) ∧
      node.isControlPlane settings.controlPlaneLabels = false := by
  simp [isWorker, Option.isSome_iff_exists, and_assoc]

/-- A record that a scan does not verify is made for a worker. -/
theorem NodeRecord.MadeFor.isWorker (h : r.MadeFor settings node)
    (hunverified : r.verified = false) :
    settings.isWorker node = true :=
  Settings.isWorker_iff.mpr ⟨h.ready, ⟨_, h.address⟩, h.exempt.trans hunverified⟩

end Workers

/-! ### Cycles -/

/-- The node of an outcome was on trial. -/
theorem Course.trial_of_node? (h : Course settings env c es outcome c')
    (hname : outcome.node? = some name) : ∃ u : Trial settings env c, u.node = name := by
  cases h with
  | quiet hsurvey hnobody houtcome => rcases houtcome with rfl | rfl <;> cases hname
  | kept u hstages houtcome =>
    rcases houtcome with rfl | rfl
    · exact ⟨u, Option.some.inj hname⟩
    · exact ⟨u, Option.some.inj hname⟩
  | evicted u hstages => exact ⟨u, Option.some.inj hname⟩

/-- An outcome names the node that was on trial, whether it was verified, kept or expelled. -/
theorem Course.node?_eq (h : Course settings env c es outcome c') (u : Trial settings env c) :
    outcome.node? = some u.node := by
  cases h with
  | quiet hsurvey hnobody houtcome => exact absurd u.found (hnobody _)
  | kept v hstages houtcome =>
    obtain rfl := v.eq u
    rcases houtcome with rfl | rfl <;> rfl
  | evicted v hstages =>
    obtain rfl := v.eq u
    rfl

namespace Turn

theorem outcome?_eq_some_iff : t.outcome? settings env = some outcome ↔
    t.move = .cycle ∧ (t.before.runCycle settings env).1 = outcome := by
  unfold outcome?
  cases t.move <;> simp

/-- An outcome is that of the course of a cycle. -/
theorem course_of_outcome? (h : t.outcome? settings env = some outcome) :
    Course settings env t.before (t.entries settings env) outcome (t.after settings env) := by
  obtain ⟨hmove, rfl⟩ := outcome?_eq_some_iff.mp h
  exact course_of_cycle hmove

theorem trial_of_outcome? (h : t.outcome? settings env = some outcome)
    (hname : outcome.node? = some name) : ∃ u : Trial settings env t.before, u.node = name :=
  (course_of_outcome? h).trial_of_node? hname

end Turn

namespace Controller

@[simp] theorem outcomes_nil : c.outcomes settings env [] = [] := rfl

@[simp] theorem outcomes_cycle : c.outcomes settings env (.cycle :: ms) =
    (c.runCycle settings env).1 :: (c.runCycle settings env).2.outcomes settings env ms := rfl

@[simp] theorem outcomes_scan : c.outcomes settings env (.scan :: ms) =
    (c.scan settings env).2.outcomes settings env ms := rfl

@[simp] theorem outcomes_sleep (interval : Duration) :
    c.outcomes settings env (.sleep interval :: ms) =
      (c.move settings env (.sleep interval)).outcomes settings env ms := rfl

theorem mem_outcomes_iff : outcome ∈ c.outcomes settings env ms ↔
    ∃ t ∈ c.turns settings env ms, t.outcome? settings env = some outcome :=
  List.mem_filterMap

theorem length_outcomes : (c.outcomes settings env ms).length = ms.countP Move.isCycle := by
  induction ms generalizing c with
  | nil => rfl
  | cons m ms ih => cases m <;> simp [ih, Move.isCycle, List.countP_cons]

/-- No turn of a run ends after the run. -/
theorem now_le_of_mem_turns (ht : t ∈ c.turns settings env ms) :
    c.session.now ≤ t.before.session.now ∧
      (t.after settings env).session.now ≤ (c.run settings env ms).session.now := by
  obtain ⟨ts, ts', hturns⟩ := List.append_of_mem ht
  obtain ⟨ms₁, m, ms₂, rfl, -, rfl, -⟩ := turns_split hturns
  rw [run_append]
  exact ⟨(c.run_calls settings env ms₁).now_le, (run_calls settings env _ ms₂).now_le⟩

end Controller

end NodeAdmission.Admission
