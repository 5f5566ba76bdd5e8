import NodeAdmission.Proofs.Provenance
import NodeAdmission.Proofs.Visits

/-!
# What a scan hands over

A scan ends in one of two ways, if it has a listing. Either it stops at a node, whose record is then
unverified and waits with a challenge, so the cycle that follows goes straight to the attempt; or it
comes to the end of the listing and has passed over every node.

* `Visit.passed` — a node that is passed over although it is ready and has an address is recorded,
  and it is verified or in a cooldown (`NodeRecord.Passed`).
* `Visits.passed` — later visits change nothing about that, as they keep everything of a
  record but its challenge.
* `scan_hands_over` — the main statement. It is about any state of the controller, reachable or not,
  for the pending challenge is drawn by the scan itself.
-/

namespace NodeAdmission.Admission

open Cluster (Node)

/-- There is nothing to do about the node for now: it is verified, or unverified with a
cooldown that has started. -/
def NodeRecord.Passed (r : NodeRecord) : Prop :=
  r.verified = true ∨ r.verified = false ∧ ∃ started, r.nextCheckAt? = some started

variable {settings : Settings} {env : Environment ω} {c c' : Controller ω} {node : Node}
  {nodes : List Node} {r : NodeRecord} {es : List Entry} {ip : String}

/-- A cooldown that is not over has started. -/
theorem NodeRecord.exists_nextCheckAt? {now : Instant} {cooldown : Duration}
    (h : r.cooldownElapsed now cooldown = false) : ∃ started, r.nextCheckAt? = some started := by
  unfold cooldownElapsed at h
  cases hstarted : r.nextCheckAt? with
  | none =>
    rw [hstarted] at h
    cases h
  | some started => exact ⟨started, rfl⟩

/-- Who is not due is verified or in a cooldown. -/
theorem NodeRecord.passed_of_notDue {now : Instant} {cooldown : Duration}
    (h : r.verified = true ∨ r.cooldownElapsed now cooldown = false) : r.Passed := by
  cases hverified : r.verified with
  | true => exact .inl hverified
  | false =>
    have hwait := h.resolve_left (by simp [hverified])
    exact .inr ⟨hverified, exists_nextCheckAt? hwait⟩

/-- A visit that does not find the node passes over it. -/
theorem Visit.passed (h : Visit settings env c node false c') (hready : node.isReady = true)
    (hip : node.internalIp? settings.internalIpAnnotation = some ip) :
    ∃ r, c'.registry.get? node.name = some r ∧ r.Passed := by
  -- The two visits that leave no record contradict what is known of the node.
  cases h with
  | notReady hnot =>
    rw [hready] at hnot
    cases hnot
  | unaddressed hready' hnone hnone' =>
    rw [hip] at hnone'
    cases hnone'
  | notDue hready' hr hwait => exact ⟨_, hr, NodeRecord.passed_of_notDue hwait⟩
  | exempted hready' hnone hip' hexempt hputs => exact ⟨_, hputs.self, .inl rfl⟩
  | deferred hready' hnone hip' hworker hputs => exact ⟨_, hputs.self, .inr ⟨rfl, _, rfl⟩⟩

/-- Visits that find nobody pass over every node, also over those that are listed twice. -/
theorem Visits.passed (h : Visits settings env c nodes es none c') (hmem : node ∈ nodes)
    (hready : node.isReady = true)
    (hip : node.internalIp? settings.internalIpAnnotation = some ip) :
    ∃ r, c'.registry.get? node.name = some r ∧ r.Passed := by
  generalize hfound : none = found? at h
  induction h with
  | done => cases hmem
  | pass hvisit hcalls hrest ih =>
    rcases List.mem_cons.mp hmem with rfl | hmem
    · obtain ⟨r, hr, hpassed⟩ := hvisit.passed hready hip
      obtain ⟨ch?, hr'⟩ := hrest.present hr
      exact ⟨_, hr', hpassed⟩
    · exact ih hmem hfound
  | stop hvisit hcalls => cases hfound

/-- A scan that finds nobody has passed over all of its listing. -/
theorem Survey.passed (h : Survey settings env c es (.ok none) c') :
    ∃ nodes, (c.session.listNodes env).1 = .ok nodes ∧
      ∀ node ∈ nodes, node.isReady = true →
        ∀ ip, node.internalIp? settings.internalIpAnnotation = some ip →
          ∃ r, c'.registry.get? node.name = some r ∧ r.Passed := by
  cases h with
  | listed hlist hevent hregistry hcalls hvisits =>
    exact ⟨_, hlist, fun node hmem hready ip hip => hvisits.passed hmem hready hip⟩

theorem Trial.runCycle_ne_idle (t : Trial settings env c) :
    (c.runCycle settings env).1 ≠ .idle := by
  intro hidle
  have hnobody := (c.runCycle_cases settings env).idle_iff.mp hidle
  rw [t.found] at hnobody
  cases hnobody

namespace Controller

/-- Whatever was done before, a node that a scan finds is listed as ready and is recorded,
unverified and with a pending challenge, and the cycle that begins with the scan attempts it and
does not fail for want of a challenge. If a scan finds nobody, every node that is listed as ready
and has an address is recorded in the end, as verified or with a cooldown that has started. There is
no third end but that of a listing that failed. -/
theorem scan_hands_over (settings : Settings) (env : Environment ω) (c : Controller ω) :
    (∀ name, (c.scan settings env).1 = .ok (some name) →
      ∃ nodes r ch, (c.session.listNodes env).1 = .ok nodes ∧
        (∃ node ∈ nodes, node.name = name ∧ node.isReady = true) ∧
        (c.scan settings env).2.registry.get? name = some r ∧
        r.verified = false ∧ r.challenge? = some ch ∧
        c.runCycle settings env = (c.scan settings env).2.attempt settings env name r ∧
        (verify env settings.identity r (c.scan settings env).2.session).1 ≠
          .error .noPendingChallenge ∧
        (c.runCycle settings env).1 ≠ .idle) ∧
      ((c.scan settings env).1 = .ok none →
        ∃ nodes, (c.session.listNodes env).1 = .ok nodes ∧
          ∀ node ∈ nodes, node.isReady = true →
            ∀ ip, node.internalIp? settings.internalIpAnnotation = some ip →
              ∃ r, (c.scan settings env).2.registry.get? node.name = some r ∧ r.Passed) ∧
      ((∃ e, (c.scan settings env).1 = .error e) ↔
        ∃ cause, (c.session.listNodes env).1 = .error cause) := by
  obtain ⟨es, hsurvey⟩ := c.scan_survey settings env
  refine ⟨?_, ?_, ?_⟩
  · intro name hfound
    -- Who is found is on trial, and a trial has all that is claimed as fields.
    obtain ⟨t, rfl⟩ := Trial.of_found hfound
    rw [hfound] at hsurvey
    obtain ⟨nodes, hlist, hready⟩ := hsurvey.ready_of_found
    exact ⟨nodes, t.record, t.challenge, hlist, hready, t.recorded, t.unverified, t.pending,
      runCycle_eq_attempt t, t.result_ne_noPendingChallenge, t.runCycle_ne_idle⟩
  · intro hnobody
    rw [hnobody] at hsurvey
    exact hsurvey.passed
  · obtain ⟨es, -, hscan⟩ := c.scan_cases settings env
    exact hscan.failed_iff

/-- The sample worker is found at first and passed over once it is verified. -/
theorem sampleWorker_handed_over :
    let c := Controller.new ()
    let c' := c.run sampleSettings sampleEnvironment [.cycle]
    (c.scan sampleSettings sampleEnvironment).1 = .ok (some "worker") ∧
      (∃ r ch, (c.scan sampleSettings sampleEnvironment).2.registry.get? "worker" = some r ∧
        r.verified = false ∧ r.challenge? = some ch) ∧
      (c'.scan sampleSettings sampleEnvironment).1 = .ok none ∧
      ∃ r, (c'.scan sampleSettings sampleEnvironment).2.registry.get? "worker" = some r ∧
        r.Passed := by
  have hfound : ((new ()).scan sampleSettings sampleEnvironment).1 = .ok (some "worker") := rfl
  have hnobody : (((new ()).run sampleSettings sampleEnvironment [.cycle]).scan sampleSettings
      sampleEnvironment).1 = .ok none := rfl
  intro c c'
  obtain ⟨nodes, r, ch, -, -, hr, hunverified, hch, -⟩ :=
    (scan_hands_over sampleSettings sampleEnvironment c).1 "worker" hfound
  obtain ⟨nodes', hlist, hpassed⟩ :=
    (scan_hands_over sampleSettings sampleEnvironment c').2.1 hnobody
  obtain rfl : [sampleWorker] = nodes' := Except.ok.inj hlist
  exact ⟨hfound, ⟨r, ch, hr, hunverified, hch⟩, hnobody,
    hpassed sampleWorker List.mem_cons_self rfl "10.0.0.7" rfl⟩

end Controller
end NodeAdmission.Admission
