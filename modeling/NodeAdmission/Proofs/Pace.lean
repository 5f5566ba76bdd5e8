import NodeAdmission.Proofs.Outcomes

/-!
# The pace of the loop

A cycle lists the nodes once, before everything else, and never sleeps. So the listings and sleeps
of a run are its moves (`Controller.beats_run`), and the pace of the control loop can be read off
the outcomes of its cycles: it sleeps after those that found nothing to do.

* `Trial.Stages.filter_requests` — what a cycle asks besides agents, the crypto service and changes
  to the cluster, it asks in its scan. This is proved for any such kind of request, since probes are
  counted in the same way elsewhere.
* `Turn.beats_eq` — a turn has one beat.
* `Controller.rounds_eq_run`, `Controller.loopMoves_eq` — the rounds of the loop are a run, and its
  moves follow from the outcomes.
-/

namespace NodeAdmission.Admission

/-- Listings and sleeps, which set the pace. -/
def Request.isBeat : Request → Bool
  | .list => true
  | .sleep _ => true
  | .apply _ _ => false
  | .probe _ _ => false
  | .version _ _ => false
  | .encrypt _ _ _ => false
  | .register _ => false
  | .decrypt _ _ _ => false

def requests (es : List Entry) : List Request := (events es).map Event.request

/-- The listings and sleeps in a log, in order. -/
def beats (es : List Entry) : List Request := (requests es).filter Request.isBeat

def Move.beat : Move → Request
  | .scan => .list
  | .cycle => .list
  | .sleep interval => .sleep interval

/-- What the loop does in a round whose cycle came to this. -/
def CycleOutcome.moves (settings : Settings) (outcome : CycleOutcome) : List Move :=
  if outcome.isQuiet then [.cycle, .sleep settings.scanInterval] else [.cycle]

/-- The moves of some rounds of the loop. -/
def Controller.loopMoves (settings : Settings) (env : Environment ω) :
    Nat → Controller ω → List Move
  | 0, _ => []
  | n + 1, c =>
    (c.runCycle settings env).1.moves settings ++ loopMoves settings env n (c.round settings env)

variable {settings : Settings} {env : Environment ω} {c c' : Controller ω} {e : Entry}
  {es fs : List Entry} {result : Except AdmissionError (Option String)} {outcome : CycleOutcome}
  {t : Turn ω} {ms ns : List Move} {n : Nat}

/-! ### One turn -/

@[simp] theorem requests_append : requests (es ++ fs) = requests es ++ requests fs := by
  simp [requests]

@[simp] theorem beats_append : beats (es ++ fs) = beats es ++ beats fs := by
  simp [beats]

/-- A kind of request that no entry has is not there. -/
theorem filter_requests_eq_nil {p : Request → Bool}
    (h : ∀ e ∈ es, p e.event.request = false) : (requests es).filter p = [] := by
  simpa [requests, events] using h

/-- The requests of an attempt are those of its plan. -/
theorem Attempt.request_mem {identity : Identity} {r : NodeRecord} {ch : Challenge}
    {evs : List Event} {verdict : Except VerificationError Unit}
    (h : Attempt identity r ch evs verdict) {event : Event} (hmem : event ∈ evs) :
    ∃ body, event.request ∈ attemptPlan identity r ch body := by
  obtain ⟨body, hfollows, -⟩ := h
  exact ⟨body, hfollows.cut.request_mem hmem⟩

/-- What a cycle asks besides agents, the crypto service and changes to the cluster, it asks in its
scan. -/
theorem Trial.Stages.filter_requests {t : Trial settings env c} {es₀ : List Entry}
    {r? : Option NodeRecord} {p : Request → Bool} (h : t.Stages es₀ es fs r? c')
    (hp : ∀ q : Request, p q = true →
      q.agentAddress? = none ∧ q.isCryptoCall = false ∧ q.isMutation = false) :
    (requests (es₀ ++ es ++ fs)).filter p = (requests es₀).filter p := by
  -- An attempt asks the agent and the crypto service only.
  have hattempt : (requests es).filter p = [] := by
    apply filter_requests_eq_nil
    intro e he
    obtain ⟨body, hplan⟩ := h.attempt.request_mem (List.mem_map_of_mem he)
    rw [← Bool.not_eq_true]
    intro hq
    obtain ⟨hagent, hcrypto, -⟩ := hp _ hq
    simp only [attemptPlan, List.mem_cons, List.not_mem_nil, or_false] at hplan
    rcases hplan with h | h | h | h <;>
      simp [h, Request.agentAddress?, Request.isCryptoCall] at hagent hcrypto
  -- And what follows it consists of changes to the cluster.
  have hsteps : (requests fs).filter p = [] := by
    apply filter_requests_eq_nil
    intro e he
    obtain ⟨step, result, hevent⟩ := h.steps _ (List.mem_map_of_mem he)
    rw [← Bool.not_eq_true]
    intro hq
    have hmutation := (hp _ hq).2.2
    rw [hevent] at hmutation
    cases hmutation
  simp [hattempt, hsteps]

/-- A scan lists once and probes for the rest. -/
theorem Survey.beats_eq (h : Survey settings env c es result c') : beats es = [.list] := by
  cases h with
  | failed hlist hevent hregistry hcalls =>
    simp [beats, requests, hevent, Event.request, Request.isBeat]
  | @listed e nodes c₁ es found? c' hlist hevent hregistry hcalls hvisits =>
    have hprobes : beats es = [] := by
      apply filter_requests_eq_nil
      intro e he
      obtain ⟨node, -, ip, reachable, hprobed, -⟩ := hvisits.probed he
      rw [hprobed]
      rfl
    rw [← List.singleton_append, beats_append, hprobes]
    simp [beats, requests, hevent, Event.request, Request.isBeat]

theorem Trial.Stages.beats_eq {t : Trial settings env c} {es₀ : List Entry} {r? : Option NodeRecord}
    (h : t.Stages es₀ es fs r? c') : beats (es₀ ++ es ++ fs) = [.list] := by
  rw [beats, h.filter_requests, ← beats, h.survey.beats_eq]
  intro q hq
  cases q <;> grind [Request.isBeat, Request.agentAddress?, Request.isCryptoCall,
    Request.isMutation]

theorem Course.beats_eq (h : Course settings env c es outcome c') : beats es = [.list] := by
  cases h with
  | quiet hsurvey hnobody houtcome => exact hsurvey.beats_eq
  | kept t hstages houtcome => exact hstages.beats_eq
  | evicted t hstages => exact hstages.beats_eq

/-- Every turn has one beat, that of its move. -/
theorem Turn.beats_eq (settings : Settings) (env : Environment ω) (t : Turn ω) :
    beats (t.entries settings env) = [t.move.beat] := by
  cases hmove : t.move with
  | scan => exact (survey_of_scan hmove).beats_eq
  | cycle => exact (course_of_cycle hmove).beats_eq
  | sleep interval =>
    obtain ⟨e, hentries, hevent⟩ : ∃ e, t.entries settings env = [e] ∧ _ := entries_of_sleep hmove
    simp [hentries, beats, requests, hevent, Event.request, Request.isBeat, Move.beat]

/-! ### Runs -/

namespace Controller

/-- The listings and sleeps of a run are its moves. -/
theorem beats_run (settings : Settings) (env : Environment ω) (c : Controller ω) (ms : List Move) :
    beats ((c.turns settings env ms).flatMap (·.entries settings env)) = ms.map Move.beat := by
  induction ms generalizing c with
  | nil => rfl
  | cons m ms ih =>
    rw [turns, List.flatMap_cons, beats_append, Turn.beats_eq, ih]
    rfl

/-- A round of the loop is a run of one or two moves. -/
theorem round_eq_run (settings : Settings) (env : Environment ω) (c : Controller ω) :
    c.round settings env = c.run settings env ((c.runCycle settings env).1.moves settings) := by
  have hround : c.round settings env =
      if (c.runCycle settings env).1.isQuiet then
        { (c.runCycle settings env).2 with
          session := (c.runCycle settings env).2.session.sleep settings.scanInterval }
      else (c.runCycle settings env).2 := rfl
  rw [hround, CycleOutcome.moves]
  split
  · rfl
  · rfl

theorem rounds_eq_run (settings : Settings) (env : Environment ω) (n : Nat) (c : Controller ω) :
    c.rounds settings env n = c.run settings env (c.loopMoves settings env n) := by
  induction n generalizing c with
  | zero => rfl
  | succ n ih =>
    rw [rounds, loopMoves, run_append, ih, ← round_eq_run]

theorem outcomes_append : c.outcomes settings env (ms ++ ns) =
    c.outcomes settings env ms ++ (c.run settings env ms).outcomes settings env ns := by
  simp [outcomes, turns_append]

theorem outcomes_moves : c.outcomes settings env ((c.runCycle settings env).1.moves settings) =
    [(c.runCycle settings env).1] := by
  rw [CycleOutcome.moves]
  split <;> rfl

/-- The loop does what the outcomes of its cycles tell it. -/
theorem loopMoves_eq (settings : Settings) (env : Environment ω) (n : Nat) (c : Controller ω) :
    c.loopMoves settings env n =
      (c.outcomes settings env (c.loopMoves settings env n)).flatMap (·.moves settings) := by
  induction n generalizing c with
  | zero => rfl
  | succ n ih =>
    rw [loopMoves, outcomes_append, outcomes_moves, ← round_eq_run, List.flatMap_append,
      List.flatMap_singleton, ← ih]

/-- Moves that follow from their own outcomes are those of the loop. -/
theorem loopMoves_of_outcomes {outcomes : List CycleOutcome}
    (h : c.outcomes settings env ms = outcomes)
    (hmoves : outcomes.flatMap (·.moves settings) = ms) :
    c.loopMoves settings env outcomes.length = ms := by
  -- One outcome after another: it tells how many moves the first round has.
  subst hmoves
  induction outcomes generalizing c with
  | nil => rfl
  | cons o os ih =>
    have hfirst : (c.runCycle settings env).1 = o := by
      rw [List.flatMap_cons, CycleOutcome.moves] at h
      split at h <;> exact (List.cons.inj h).1
    subst hfirst
    rw [List.flatMap_cons, outcomes_append, outcomes_moves, ← round_eq_run] at h
    rw [List.length_cons, loopMoves, List.flatMap_cons, ih (List.cons.inj h).2]

theorem countP_moves (settings : Settings) (outcome : CycleOutcome) :
    (outcome.moves settings).countP Move.isCycle = 1 := by
  rw [CycleOutcome.moves]
  split <;> rfl

theorem countP_loopMoves : (c.loopMoves settings env n).countP Move.isCycle = n := by
  induction n generalizing c with
  | zero => rfl
  | succ n ih => rw [loopMoves, List.countP_append, ih, countP_moves, Nat.add_comm]

theorem moves_ne_scan (settings : Settings) (outcome : CycleOutcome) :
    ∀ m ∈ outcome.moves settings, m ≠ .scan := by
  rw [CycleOutcome.moves]
  split <;> simp

theorem loopMoves_ne_scan : ∀ m ∈ c.loopMoves settings env n, m ≠ .scan := by
  induction n generalizing c with
  | zero => exact nofun
  | succ n ih =>
    rw [loopMoves]
    exact List.forall_mem_append.mpr ⟨moves_ne_scan _ _, ih⟩

end Controller

end NodeAdmission.Admission
