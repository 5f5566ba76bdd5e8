import NodeAdmission.Proofs.Course

/-!
# Records between cycles

Inside a cycle a record may have a challenge and no cooldown, or both. Between cycles every record
is in one of two shapes: `NodeRecord.Admitted`, which nothing is pending for, or
`NodeRecord.Waiting`, whose cooldown has started.

* `Visit.atRest`, `Visits.atRest`, `Survey.atRest` — a scan leaves all records in these shapes but
  that of the node it finds. So the invariant does not hold after a scan alone, and a run in which
  scans stand for themselves is excluded.
* `Trial.Stages.atRest`, `Course.atRest` — the rest of the cycle either ends the attempt on that
  node or forgets it, and the invariant holds again.
* `Turn.atRest`, `run_records_at_rest` — so it holds after every run that is made of whole cycles
  and sleeps, for every entry of the registry.

The shape of a waiting record mentions the present instant. The invariant is on controllers and not
on registries for this reason, and each lemma has to say that time has not gone back.
-/

namespace NodeAdmission.Admission

open Cluster (Node)

/-- The record of a node that is trusted. -/
structure NodeRecord.Admitted (r : NodeRecord) : Prop where
  verified : r.verified = true
  settled : r.challenge? = none
  free : r.nextCheckAt? = none

/-- The record of a node that has to wait, since an instant that is not in the future. -/
structure NodeRecord.Waiting (now : Instant) (r : NodeRecord) : Prop where
  unverified : r.verified = false
  settled : r.challenge? = none
  started : ∃ t ≤ now, r.nextCheckAt? = some t

/-- Every record is in one of the two shapes. -/
def Controller.AtRest (c : Controller ω) : Prop :=
  ∀ name r, c.registry.get? name = some r → r.Admitted ∨ r.Waiting c.session.now

variable {settings : Settings} {env : Environment ω} {c c' : Controller ω} {node : Node}
  {nodes : List Node} {name : String} {r : NodeRecord} {es : List Entry} {now now' : Instant}

/-! ### The two shapes -/

/-- Who waits goes on waiting as time passes. -/
theorem NodeRecord.Waiting.mono (h : r.Waiting now) (hle : now ≤ now') : r.Waiting now' := by
  obtain ⟨t, ht, hstarted⟩ := h.started
  exact ⟨h.unverified, h.settled, t, Nat.le_trans ht hle, hstarted⟩

theorem NodeRecord.Admitted.not_waiting (h : r.Admitted) : ¬ r.Waiting now := by
  intro hwaiting
  have hverified := h.verified
  rw [hwaiting.unverified] at hverified
  cases hverified

/-- An attempt that is over leaves its record in one of the two shapes. -/
theorem NodeRecord.afterExchange_atRest (h : r.verified = false) (now : Instant)
    (result : Except VerificationError Unit) :
    (r.afterExchange now result).Admitted ∨ (r.afterExchange now result).Waiting now := by
  cases result with
  | ok _ => exact .inl ⟨rfl, rfl, rfl⟩
  | error _ => exact .inr ⟨h, rfl, now, Nat.le_refl _, rfl⟩

/-! ### Scans -/

/-- A visit that does not find its node leaves every record at rest. -/
theorem Visit.atRest {found : Bool} (h : Visit settings env c node found c') (hc : c.AtRest)
    (hfound : found = true → name ≠ node.name) (hr : c'.registry.get? name = some r) :
    r.Admitted ∨ r.Waiting c'.session.now := by
  by_cases hname : name = node.name
  · subst hname
    cases h with
    | notReady | notDue | unaddressed => exact hc _ _ hr
    | retried hready hr' hunverified hover hputs hcalls => exact absurd rfl (hfound rfl)
    | reached hready hnone hip hworker hputs hcalls => exact absurd rfl (hfound rfl)
    | exempted hready hnone hip hexempt hputs hcalls =>
      obtain rfl := Option.some.inj (hputs.self.symm.trans hr)
      exact .inl ⟨rfl, rfl, rfl⟩
    | deferred hready hnone hip hworker hputs hcalls =>
      -- The cooldown starts when the probe ends, which is the present instant.
      obtain rfl := Option.some.inj (hputs.self.symm.trans hr)
      exact .inr ⟨rfl, rfl, _, Nat.le_refl _, rfl⟩
  · rw [h.other hname] at hr
    exact (hc name r hr).imp_right (·.mono h.now_le)

theorem Visits.atRest {found? : Option String} (h : Visits settings env c nodes es found? c')
    (hc : c.AtRest) (hfound : found? ≠ some name) (hr : c'.registry.get? name = some r) :
    r.Admitted ∨ r.Waiting c'.session.now := by
  induction h with
  | done => exact hc name r hr
  | pass hvisit hcalls hrest ih =>
    apply ih
    · intro other s hs
      exact hvisit.atRest hc nofun hs
    · exact hfound
    · exact hr
  -- The last visit may find its node, which is the one name that is excepted.
  | @stop c c' m nodes fs hvisit hcalls =>
    have hne : name ≠ m.name := by
      rintro rfl
      exact hfound rfl
    exact hvisit.atRest hc (fun _ => hne) hr

theorem Survey.atRest {result : Except AdmissionError (Option String)}
    (h : Survey settings env c es result c') (hc : c.AtRest)
    (hfound : result ≠ .ok (some name)) (hr : c'.registry.get? name = some r) :
    r.Admitted ∨ r.Waiting c'.session.now := by
  have hrest : ∀ {c₁ : Controller ω} {fs}, c₁.registry = c.registry →
      c.session.Calls env fs c₁.session → c₁.AtRest := by
    intro c₁ fs hregistry hcalls other s hs
    rw [hregistry] at hs
    exact (hc other s hs).imp_right (·.mono hcalls.now_le)
  cases h with
  | failed hlist hevent hregistry hcalls => exact hrest hregistry hcalls name r hr
  | listed hlist hevent hregistry hcalls hvisits =>
    apply hvisits.atRest (hrest hregistry hcalls)
    · intro hfound?
      exact hfound (by rw [hfound?])
    · exact hr

/-! ### Cycles -/

/-- After the attempt nothing is pending for the node that was found either. -/
theorem Trial.Stages.atRest {t : Trial settings env c} {es₀ es fs : List Entry}
    {r? : Option NodeRecord} (h : t.Stages es₀ es fs r? c') (hc : c.AtRest)
    (hr? : ∀ r, r? = some r → r.Admitted ∨ r.Waiting t.session.now) : c'.AtRest := by
  intro name r hr
  by_cases hname : name = t.node
  · subst hname
    -- What the attempt left; the steps after it take time but change no record.
    rw [h.puts.self] at hr
    exact (hr? r hr).imp_right (·.mono h.steps_calls.now_le)
  · rw [h.puts.other hname] at hr
    have hfound : Except.ok (some t.node) ≠ (.ok (some name) : Except AdmissionError _) := by
      simpa using Ne.symm hname
    have hle := (h.attempt_calls.trans h.steps_calls).now_le
    exact (h.survey.atRest hc hfound hr).imp_right (·.mono hle)

theorem Course.atRest {outcome : CycleOutcome} (h : Course settings env c es outcome c')
    (hc : c.AtRest) : c'.AtRest := by
  cases h with
  | quiet hsurvey hnobody houtcome =>
    intro name r hr
    exact hsurvey.atRest hc (hnobody name) hr
  | kept t hstages houtcome =>
    apply hstages.atRest hc
    rintro r ⟨⟩
    exact NodeRecord.afterExchange_atRest t.unverified _ _
  | evicted t hstages => exact hstages.atRest hc nofun

/-! ### Runs -/

/-- A turn that is no scan keeps every record at rest. -/
theorem Turn.atRest {t : Turn ω} (hmove : t.move ≠ .scan) (h : t.before.AtRest) :
    (t.after settings env).AtRest := by
  cases hm : t.move with
  | scan => exact absurd hm hmove
  | cycle => exact (course_of_cycle hm).atRest h
  | sleep interval =>
    intro name r hr
    have hle := (t.calls settings env).now_le
    rw [Turn.after, hm, Controller.move_sleep] at hr
    exact (h name r hr).imp_right (·.mono hle)

/-- Whenever the cycles of a run are complete, every entry of the registry is recorded under its
own name and has exactly one of the two shapes: nothing is pending, and who is not trusted waits.
-/
theorem run_records_at_rest (settings : Settings) (env : Environment ω) (world : ω)
    (ms : List Move) (hcycles : Move.scan ∉ ms) :
    let c := Controller.run settings env (.new world) ms
    ∀ e ∈ c.registry.entries, e.1 = e.2.name ∧
      (e.2.Admitted ∨ e.2.Waiting c.session.now) ∧
      ¬ (e.2.Admitted ∧ e.2.Waiting c.session.now) := by
  intro c e he
  have hrest : c.AtRest := by
    -- A fresh controller has no records, and no turn of the run is a scan.
    apply Controller.run_induct (P := Controller.AtRest)
    · intro name r hr
      cases hr
    · intro t ht h
      apply Turn.atRest _ h
      intro hmove
      exact hcycles (hmove ▸ Controller.move_mem_of_mem_turns ht)
  have hr : c.registry.get? e.1 = some e.2 := Registry.get?_of_mem he
  refine ⟨(Controller.run_keyed settings env world ms e.1 e.2 hr).symm, hrest e.1 e.2 hr, ?_⟩
  rintro ⟨hadmitted, hwaiting⟩
  exact hadmitted.not_waiting hwaiting

/-- A worker that could not be reached waits since its probe gave up. -/
theorem unreachable_worker_at_rest :
    let ms := [Move.cycle, Move.sleep (.ofMillis 1000), Move.cycle]
    let c := Controller.run sampleSettings (relistedEnvironment sampleWorker) (.new ()) ms
    Move.scan ∉ ms ∧
      c.registry.entries = [("worker",
        { name := "worker", ip := "10.0.0.7", nextCheckAt? := some 20000000000 })] ∧
      ∀ e ∈ c.registry.entries, e.1 = e.2.name ∧
        (e.2.Admitted ∨ e.2.Waiting c.session.now) ∧
        ¬ (e.2.Admitted ∧ e.2.Waiting c.session.now) :=
  ⟨by simp, rfl, run_records_at_rest sampleSettings (relistedEnvironment sampleWorker) ()
    [.cycle, .sleep (.ofMillis 1000), .cycle] (by simp)⟩

end NodeAdmission.Admission
