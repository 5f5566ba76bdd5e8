import NodeAdmission.Proofs.Course

/-!
# Cooldowns

A node whose probe or whose verification has failed is left in peace for the cooldown, counted from
the end of the call that failed.

What the registry keeps of the failure is `NodeRecord.Remembers`: the node waits since
then, or since later, or it is trusted by now. The argument is the way of this fact
through a run, in three steps.

* A failure is remembered, at the end of the scan for a probe (`Visits.waited_of_probe`) and at the
  end of the cycle for an attempt (`Course.remembers_failure`).
* Every turn that does not forget the node goes on remembering it (`Turn.remembers`).
* A scan finds a node with a failure only when the cooldown is over (`Waited`), and agents are
  called for nodes that were found (`Turn.waits`).

`Controller.Allows` relates two calls, an earlier and a later one. Within one turn the log is
compared pairwise with it (`Turn.allows`); between two turns the invariant above is carried from the
one to the other. Main statement: `run_respects_cooldown`.

The failure is remembered as `since` or later, and not as `since` itself, because further failures
may come in between. Each of them starts the cooldown again, which makes the wait longer.
-/

namespace NodeAdmission.Admission

open Cluster (Node)

/-! ### Who may be called after a failure

A call is blamed on a node if it shows that the node is not fit. That the crypto service does not
answer is blamed on the node on trial as well, since the controller does not tell the two apart. -/

def Event.Probes (name : String) (e : Event) : Prop := ∃ ip, e.request = .probe name ip

def Event.AsksAgent (name : String) (e : Event) : Prop :=
  e.request.node? = some name ∧ e.request.agentAddress? ≠ none

/-- The event is a failure of the node in a turn from `c`: its probe gave up, or the event is a step
of its verification that failed. -/
def Controller.Blames (settings : Settings) (env : Environment ω) (c : Controller ω) (name : String)
    (e : Event) : Prop :=
  (∃ ip, e = .probed name ip false) ∨
    ∃ t : Trial settings env c, t.node = name ∧ e.Fails t.challenge

/-- After the call `e` of a turn from `c` the call `f` may be made, if the node was not forgotten in
between: the node is not probed again, and after a failure its agent is not called before the
cooldown is over. -/
structure Controller.Allows (settings : Settings) (env : Environment ω) (c : Controller ω)
    (name : String) (e f : Entry) : Prop where
  probe : e.event.Probes name → ¬ f.event.Probes name
  wait : c.Blames settings env name e.event → f.event.AsksAgent name →
    e.ended + settings.retryCooldown.nanos < f.began

/-- The node is trusted, or it waits since `since` or later. -/
def NodeRecord.Remembers (since : Instant) (r : NodeRecord) : Prop :=
  r.verified = true ∨ ∃ start, r.nextCheckAt? = some start ∧ since ≤ start

/-- The record of the node remembers a failure that was at `since`. -/
def Controller.Remembers (c : Controller ω) (name : String) (since : Instant) : Prop :=
  ∃ r, c.registry.get? name = some r ∧ r.Remembers since

variable {settings : Settings} {env : Environment ω} {c c' : Controller ω} {node : Node}
  {nodes : List Node} {name : String} {since now : Instant} {r : NodeRecord} {e f : Entry}
  {es es₀ fs : List Entry} {found? : Option String} {r? : Option NodeRecord}
  {result : Except AdmissionError (Option String)} {outcome : CycleOutcome} {t : Turn ω}

/-- A retry of an unverified node comes after the cooldown of all that is remembered of it. -/
theorem NodeRecord.Remembers.elapsed (h : r.Remembers since) (hunverified : r.verified = false)
    (hover : r.cooldownElapsed now settings.retryCooldown = true) :
    since + settings.retryCooldown.nanos < now := by
  rcases h with hverified | ⟨start, hstart, hle⟩
  · rw [hunverified] at hverified
    cases hverified
  · simp only [cooldownElapsed, hstart, decide_eq_true_eq] at hover
    have hpassed : start + settings.retryCooldown.nanos < now := Nat.add_lt_of_lt_sub' hover
    exact Nat.lt_of_le_of_lt (Nat.add_le_add_right hle _) hpassed

/-! ### Scans

A scan can fail a node by a probe that is not answered. So two things are shown of it: that it
remembers such a failure from the end of the call, and that it goes on remembering older ones. -/

/-- What a scan with this result makes of a failure that was at `since`: it is remembered, and if
the node was found then its cooldown is over. -/
structure Waited (settings : Settings) (name : String) (since : Instant)
    (result : Except AdmissionError (Option String)) (c' : Controller ω) : Prop where
  remembered : c'.Remembers name since
  elapsed : result = .ok (some name) → since + settings.retryCooldown.nanos < c'.session.now

/-- A visit keeps start and trust of every record, so it remembers what was remembered before. -/
theorem Visit.remembers {found : Bool} (h : Visit settings env c node found c')
    (hrem : c.Remembers name since) : c'.Remembers name since := by
  obtain ⟨r, hr, hsince⟩ := hrem
  obtain ⟨ch?, hr'⟩ := h.present hr
  exact ⟨_, hr', hsince⟩

/-- The node that a visit finds is new, or its cooldown is over. -/
theorem Visit.elapsed (h : Visit settings env c node true c') (hrem : c.Remembers node.name since) :
    since + settings.retryCooldown.nanos < c'.session.now := by
  have hnow := h.now_le
  obtain ⟨r, hr, hsince⟩ := hrem
  cases h with
  | @retried s c' hready hs hunverified hover hputs hcalls =>
    obtain rfl := Option.some.inj (hs.symm.trans hr)
    exact Nat.lt_of_lt_of_le (hsince.elapsed hunverified hover) hnow
  | reached hready hnone hip hworker hputs hcalls =>
    rw [hnone] at hr
    cases hr

namespace Visits

/-- What was remembered before the visits is remembered behind them, and it was waited for. -/
theorem waited (h : Visits settings env c nodes es found? c') (hrem : c.Remembers name since) :
    Waited settings name since (.ok found?) c' := by
  induction h with
  | done => exact ⟨hrem, nofun⟩
  | pass hvisit hcalls hrest ih => exact ih (hvisit.remembers hrem)
  | stop hvisit hcalls =>
    refine ⟨hvisit.remembers hrem, ?_⟩
    rintro ⟨⟩
    exact hvisit.elapsed hrem

/-- A probe that gives up starts the cooldown at its end, and the later visits remember it. -/
theorem waited_of_probe {ip : String} (h : Visits settings env c nodes es found? c') (he : e ∈ es)
    (hfailed : e.event = .probed name ip false) : Waited settings name e.ended (.ok found?) c' := by
  induction h with
  | done => cases he
  | pass hvisit hcalls hrest ih =>
    rcases List.mem_append.mp he with he | he
    · -- The failed probe was made in this visit.
      obtain ⟨-, -, ip', r, hevent, hr, hstart⟩ := hvisit.probe hcalls he
      rw [hfailed] at hevent
      cases hevent
      exact hrest.waited ⟨r, hr, .inr ⟨e.ended, hstart rfl, Nat.le_refl _⟩⟩
    · exact ih he
  | stop hvisit hcalls =>
    -- The visit found its node, so the node could be reached.
    obtain ⟨-, -, ip', r, hevent, -⟩ := hvisit.probe hcalls he
    rw [hfailed] at hevent
    cases hevent

/-- Whoever is probed has a record behind the visits. -/
theorem recorded_of_probe (h : Visits settings env c nodes es found? c') (he : e ∈ es)
    (hprobes : e.event.Probes name) : ∃ r, c'.registry.get? name = some r := by
  obtain ⟨ip, hrequest⟩ := hprobes
  induction h with
  | done => cases he
  | pass hvisit hcalls hrest ih =>
    rcases List.mem_append.mp he with he | he
    · obtain ⟨-, -, ip', r, hevent, hr, -⟩ := hvisit.probe hcalls he
      rw [hevent] at hrequest
      cases hrequest
      obtain ⟨ch?, hr'⟩ := hrest.present hr
      -- Later visits change at most the challenge of the record.
      exact ⟨_, hr'⟩
    · exact ih he
  | stop hvisit hcalls =>
    obtain ⟨-, -, ip', r, hevent, hr, -⟩ := hvisit.probe hcalls he
    rw [hevent] at hrequest
    cases hrequest
    exact ⟨r, hr⟩

end Visits

namespace Survey

theorem waited (h : Survey settings env c es result c') (hrem : c.Remembers name since) :
    Waited settings name since result c' := by
  obtain ⟨r, hr, hsince⟩ := hrem
  cases h with
  | failed hlist hevent hregistry hcalls => exact ⟨⟨r, hregistry ▸ hr, hsince⟩, nofun⟩
  | listed hlist hevent hregistry hcalls hvisits =>
    exact hvisits.waited ⟨r, hregistry ▸ hr, hsince⟩

theorem waited_of_probe {ip : String} (h : Survey settings env c es result c') (he : e ∈ es)
    (hfailed : e.event = .probed name ip false) : Waited settings name e.ended result c' := by
  cases h with
  | failed hlist hevent hregistry hcalls =>
    rw [List.mem_singleton.mp he, hevent] at hfailed
    cases hfailed
  | listed hlist hevent hregistry hcalls hvisits =>
    rcases List.mem_cons.mp he with rfl | he
    · rw [hevent] at hfailed
      cases hfailed
    · exact hvisits.waited_of_probe he hfailed

theorem recorded_of_probe (h : Survey settings env c es result c') (he : e ∈ es)
    (hprobes : e.event.Probes name) : ∃ r, c'.registry.get? name = some r := by
  cases h with
  | failed hlist hevent hregistry hcalls =>
    obtain ⟨ip, hrequest⟩ := hprobes
    rw [List.mem_singleton.mp he, hevent] at hrequest
    cases hrequest
  | listed hlist hevent hregistry hcalls hvisits =>
    rcases List.mem_cons.mp he with rfl | he
    · obtain ⟨ip, hrequest⟩ := hprobes
      rw [hevent] at hrequest
      cases hrequest
    · exact hvisits.recorded_of_probe he hprobes

/-- Nothing that a scan asks is a step of a verification. -/
theorem not_fails (h : Survey settings env c es result c') (he : e ∈ es) (ch : Challenge) :
    ¬ e.event.Fails ch := by
  rcases h.mem_cases he with ⟨listing, hevent⟩ | ⟨nodes, -, node, -, ip, reachable, hevent, -⟩
  · rw [hevent]
    exact fun hfails => hfails rfl
  · rw [hevent]
    exact fun hfails => hfails rfl

end Survey

/-! ### Cycles -/

theorem Event.Probes.node? {event : Event} (h : event.Probes name) :
    event.request.node? = some name := by
  obtain ⟨ip, hrequest⟩ := h
  rw [hrequest]
  rfl

theorem Attempt.not_probes {identity : Identity} {ch : Challenge} {evs : List Event}
    {result : Except VerificationError Unit} (h : Attempt identity r ch evs result) {event : Event}
    (hmem : event ∈ evs) : ¬ event.Probes name := by
  intro hprobes
  have hname := hprobes.node?
  obtain ⟨ip, hrequest⟩ := hprobes
  exact (h.node_eq hmem hname).2 ip hrequest

/-- A probe belongs to the scan. -/
theorem CallOf.of_probes (h : CallOf settings env c e) (hprobes : e.event.Probes name) :
    ∃ es, Survey settings env c es (c.scan settings env).1 (c.scan settings env).2 ∧ e ∈ es := by
  cases h with
  | scan hsurvey he => exact ⟨_, hsurvey, he⟩
  | attempt t hcalls hattempt he =>
    exact absurd hprobes (hattempt.not_probes (List.mem_map_of_mem he))
  | step t hevent =>
    obtain ⟨ip, hrequest⟩ := hprobes
    rw [hevent] at hrequest
    cases hrequest

/-- A cycle calls the agent of a node with a failure when the cooldown is over. -/
theorem CallOf.waits (h : CallOf settings env c f) (hkeyed : c.registry.Keyed)
    (hwaited : Waited settings name since (c.scan settings env).1 (c.scan settings env).2)
    (hasks : f.event.AsksAgent name) : since + settings.retryCooldown.nanos < f.began := by
  obtain ⟨hname, hagent⟩ := hasks
  cases h with
  | scan hsurvey hf => exact absurd (hsurvey.no_agent hf) hagent
  | attempt t hcalls hattempt hf =>
    obtain ⟨rfl, -⟩ := hattempt.node_eq (List.mem_map_of_mem hf) hname
    rw [t.record_name hkeyed] at hwaited
    exact Nat.lt_of_lt_of_le (hwaited.elapsed t.found) (hcalls.within hf).1
  | step t hevent =>
    rw [hevent] at hagent
    exact absurd rfl hagent

/-- A cycle that does not forget the node remembers what its scan remembers. -/
theorem Course.remembers (h : Course settings env c es outcome c')
    (hwaited : Waited settings name since (c.scan settings env).1 (c.scan settings env).2)
    (hkept : outcome ≠ .remediated name) : c'.Remembers name since := by
  obtain ⟨⟨r, hr, hsince⟩, hover⟩ := hwaited
  -- The record is that of the scan, or the attempt has filed its result.
  rcases h.present hkept hr with hr' | ⟨t, rfl, rfl, hr'⟩
  · exact ⟨r, hr', hsince⟩
  · refine ⟨_, hr', ?_⟩
    cases t.result with
    | ok u => exact .inl rfl
    | error err =>
      -- The attempt began after the failure, and its own failure is remembered instead.
      obtain ⟨fs, hcalls, -⟩ := t.calls
      have hle : since ≤ (c.scan settings env).2.session.now :=
        Nat.le_trans (Nat.le_add_right _ _) (Nat.le_of_lt (hover t.found))
      exact .inr ⟨t.session.now, rfl, Nat.le_trans hle hcalls.now_le⟩

/-- A cycle that does not forget the node remembers a failure of its verification. -/
theorem Course.remembers_failure (h : Course settings env c es outcome c')
    (he : CallOf settings env c e) (t : Trial settings env c) (hfails : e.event.Fails t.challenge)
    (hkept : outcome ≠ .remediated t.node) : c'.Remembers t.node e.ended := by
  refine ⟨_, h.tried t hkept, ?_⟩
  -- The failure is one of the attempt, and the cooldown starts when the attempt is over.
  cases he with
  | scan hsurvey he => exact absurd hfails (hsurvey.not_fails he _)
  | step u hevent =>
    rw [hevent] at hfails
    exact absurd rfl hfails
  | attempt u hcalls hattempt he =>
    obtain rfl := u.eq t
    cases hresult : u.result with
    | ok _ => exact .inl rfl
    | error err => exact .inr ⟨u.session.now, rfl, (hcalls.within he).2⟩

/-! ### The calls of one turn

Two calls of the same turn are compared stage by stage. For calls of different turns it is said here
what the earlier turn leaves behind, and for what the later one has waited. -/

/-- Calls that neither probe the node nor go to its agent are always allowed. -/
theorem Controller.Allows.of_other (hprobe : ¬ f.event.Probes name)
    (hagent : ¬ f.event.AsksAgent name) : c.Allows settings env name e f :=
  ⟨fun _ => hprobe, fun _ hasks => absurd hasks hagent⟩

/-- A scan probes no node twice and calls no agent, so all its calls may be made. -/
theorem Survey.allows (h : Survey settings env c es result c') :
    es.Pairwise (c.Allows settings env name) := by
  have honce : es.Pairwise fun e f => e.event.request.node? = some name →
      f.event.request.node? ≠ some name := h.probed_once
  apply honce.imp_of_mem
  intro e f he hf hother
  refine ⟨?_, ?_⟩
  · intro hprobes hprobes'
    exact hother hprobes.node? hprobes'.node?
  · intro hblames hasks
    exact absurd (h.no_agent hf) hasks.2

/-- Behind a failed step an attempt makes no call, so nothing has to be waited for. -/
theorem Attempt.allows {t : Trial settings env c} {result : Except VerificationError Unit}
    (h : Attempt settings.identity t.record t.challenge (events es) result) :
    es.Pairwise (c.Allows settings env name) := by
  -- Whoever is followed by another call has not failed.
  have hpairwise : (events es).Pairwise fun event _ => ¬ event.Fails t.challenge := by
    obtain ⟨body, hfollows, -⟩ := h
    exact hfollows.cut.pairwise
  apply (List.pairwise_map.mp hpairwise).imp_of_mem
  intro e f he hf hfine
  refine ⟨?_, ?_⟩
  · exact fun _ => h.not_probes (List.mem_map_of_mem hf)
  · rintro (⟨ip, hprobed⟩ | ⟨u, -, hfails⟩) hasks
    · exact absurd ⟨ip, by rw [hprobed]; rfl⟩ (h.not_probes (List.mem_map_of_mem he))
    · rw [u.eq t] at hfails
      exact absurd hfails hfine

/-- The calls of a whole cycle. The scan and the attempt meet in one case only: a node may
be probed in vain and found in the same scan, if it is listed twice and the probe took
longer than the cooldown. -/
theorem Trial.Stages.allows {t : Trial settings env c} (h : t.Stages es₀ es fs r? c')
    (hkeyed : c.registry.Keyed) : (es₀ ++ es ++ fs).Pairwise (c.Allows settings env name) := by
  -- The steps against a node are of no interest here.
  have hsteps : ∀ e, ∀ f ∈ fs, c.Allows settings env name e f := by
    intro e f hf
    obtain ⟨step, result, hevent⟩ := h.steps _ (List.mem_map_of_mem hf)
    apply Controller.Allows.of_other
    · rintro ⟨ip, hrequest⟩
      rw [hevent] at hrequest
      cases hrequest
    · rintro ⟨-, hagent⟩
      rw [hevent] at hagent
      exact hagent rfl
  refine List.pairwise_append.mpr ⟨?_, ?_, fun e _ f hf => hsteps e f hf⟩
  · refine List.pairwise_append.mpr ⟨h.survey.allows, h.attempt.allows, fun e he f hf => ⟨?_, ?_⟩⟩
    · exact fun _ => h.attempt.not_probes (List.mem_map_of_mem hf)
    · rintro (⟨ip, hprobed⟩ | ⟨u, -, hfails⟩) hasks
      · -- The node was listed once more after its probe had failed.
        have hwaited := h.survey.waited_of_probe he hprobed
        rw [← t.found] at hwaited
        exact CallOf.waits (.attempt t h.attempt_calls h.attempt hf) hkeyed hwaited hasks
      · exact absurd hfails (h.survey.not_fails he _)
  · exact List.pairwise_of_forall_mem_list fun e _ f hf => hsteps e f hf

theorem Course.allows (h : Course settings env c es outcome c') (hkeyed : c.registry.Keyed) :
    es.Pairwise (c.Allows settings env name) := by
  cases h with
  | quiet hsurvey hnobody houtcome => exact hsurvey.allows
  | kept t hstages houtcome => exact hstages.allows hkeyed
  | evicted t hstages => exact hstages.allows hkeyed

namespace Turn

theorem allows (hkeyed : t.before.registry.Keyed) :
    (t.entries settings env).Pairwise (t.before.Allows settings env name) := by
  cases hmove : t.move with
  | scan => exact (survey_of_scan hmove).allows
  | cycle => exact (course_of_cycle hmove).allows hkeyed
  | sleep interval =>
    obtain ⟨e, hentries, -⟩ : ∃ e, t.entries settings env = [e] ∧ _ := entries_of_sleep hmove
    rw [hentries]
    exact List.pairwise_singleton _ _

/-- What the scan of a turn remembers is remembered by the whole turn. -/
theorem remembers_after_scan (hmove : t.move = .scan ∨ t.move = .cycle)
    (hwaited : Waited settings name since (t.before.scan settings env).1
      (t.before.scan settings env).2)
    (hkept : ¬ t.Evicts settings env name) : (t.after settings env).Remembers name since := by
  rcases hmove with hmove | hmove
  · rw [Turn.after, hmove]
    exact hwaited.remembered
  · exact (course_of_cycle hmove).remembers hwaited fun h => hkept ⟨hmove, h⟩

/-- A turn that does not forget the node remembers what was remembered before. -/
theorem remembers (hrem : t.before.Remembers name since) (hkept : ¬ t.Evicts settings env name) :
    (t.after settings env).Remembers name since := by
  obtain ⟨es, hsurvey⟩ := t.before.scan_survey settings env
  cases hmove : t.move with
  | scan => exact remembers_after_scan (.inl hmove) (hsurvey.waited hrem) hkept
  | cycle => exact remembers_after_scan (.inr hmove) (hsurvey.waited hrem) hkept
  | sleep interval =>
    obtain ⟨r, hr, hsince⟩ := hrem
    rw [Turn.after, hmove, Controller.move_sleep]
    exact ⟨r, hr, hsince⟩

/-- A turn that does not forget the node remembers its failure. -/
theorem remembers_failure (he : e ∈ t.entries settings env)
    (hblames : t.before.Blames settings env name e.event) (hkept : ¬ t.Evicts settings env name) :
    (t.after settings env).Remembers name e.ended := by
  -- A sleep is no failure. A probe is remembered by the scan, a step of an attempt by the cycle.
  rcases callOf he with ⟨interval, hevent⟩ | ⟨hmove, hcall⟩
  · rw [hevent] at hblames
    rcases hblames with ⟨ip, hprobed⟩ | ⟨u, -, hfails⟩
    · cases hprobed
    · exact absurd rfl hfails
  · rcases hblames with ⟨ip, hprobed⟩ | ⟨u, rfl, hfails⟩
    · obtain ⟨es, hsurvey, he⟩ := hcall.of_probes ⟨ip, by rw [hprobed]; rfl⟩
      exact remembers_after_scan hmove (hsurvey.waited_of_probe he hprobed) hkept
    · rcases hmove with hmove | hmove
      · exact absurd hfails ((survey_of_scan hmove).not_fails he _)
      · exact (course_of_cycle hmove).remembers_failure hcall u hfails fun h => hkept ⟨hmove, h⟩

/-- The agent of a node with a failure is called when the cooldown is over. -/
theorem waits (hkeyed : t.before.registry.Keyed) (hrem : t.before.Remembers name since)
    (hf : f ∈ t.entries settings env) (hasks : f.event.AsksAgent name) :
    since + settings.retryCooldown.nanos < f.began := by
  rcases callOf hf with ⟨interval, hevent⟩ | ⟨hmove, hcall⟩
  · rw [hevent] at hasks
    exact absurd rfl hasks.2
  · obtain ⟨es, hsurvey⟩ := t.before.scan_survey settings env
    exact hcall.waits hkeyed (hsurvey.waited hrem) hasks

/-- Only a node without a record is probed, and the scan makes a record for it. -/
theorem creates_of_probe (he : e ∈ t.entries settings env) (hprobes : e.event.Probes name) :
    (t.move = .scan ∨ t.move = .cycle) ∧ t.before.registry.get? name = none ∧
      ∃ r, (t.before.scan settings env).2.registry.get? name = some r := by
  rcases callOf he with ⟨interval, hevent⟩ | ⟨hmove, hcall⟩
  · obtain ⟨ip, hrequest⟩ := hprobes
    rw [hevent] at hrequest
    cases hrequest
  · obtain ⟨es, hsurvey, he⟩ := hcall.of_probes hprobes
    obtain ⟨nodes, -, node, -, ip, reachable, hevent, -, hnone⟩ := hsurvey.probed he hprobes.node?
    have hname := hprobes.node?
    rw [hevent] at hname
    obtain rfl : node.name = name := Option.some.inj hname
    exact ⟨hmove, hnone, hsurvey.recorded_of_probe he hprobes⟩

/-- Whoever is probed has a record after the turn, unless the turn forgets it again. -/
theorem recorded_of_probe (he : e ∈ t.entries settings env) (hprobes : e.event.Probes name)
    (hkept : ¬ t.Evicts settings env name) :
    ∃ r, (t.after settings env).registry.get? name = some r := by
  obtain ⟨hmove, -, r, hr⟩ := creates_of_probe he hprobes
  rcases hmove with hmove | hmove
  · rw [Turn.after, hmove]
    exact ⟨r, hr⟩
  · have hkept' : (t.before.runCycle settings env).1 ≠ .remediated name := fun h => hkept ⟨hmove, h⟩
    rcases (course_of_cycle hmove).present hkept' hr with hr' | ⟨u, -, -, hr'⟩
    · exact ⟨r, hr'⟩
    · exact ⟨_, hr'⟩

end Turn

/-! ### Runs

The turns between two calls remember the failure as long as they do not forget the node, which is
the one exception that the statement makes. -/

/-- The cooldown is respected in every run of a fresh controller. A node is probed only in a scan
that makes a record for it. And a call allows all calls that are made later, in the same turn or
in a later one, as long as the node is not forgotten on the way. -/
theorem run_respects_cooldown (settings : Settings) (env : Environment ω) (world : ω)
    (ms : List Move) (name : String) :
    let turns := Controller.turns settings env (.new world) ms
    (∀ t ∈ turns, ∀ e ∈ t.entries settings env, e.event.Probes name →
      (t.move = .scan ∨ t.move = .cycle) ∧ t.before.registry.get? name = none ∧
        ∃ r, (t.before.scan settings env).2.registry.get? name = some r) ∧
    (∀ t ∈ turns, (t.entries settings env).Pairwise (t.before.Allows settings env name)) ∧
    ∀ ts₁ t ts₂ u ts₃, turns = ts₁ ++ t :: (ts₂ ++ u :: ts₃) →
      (∀ v ∈ t :: ts₂, ¬ v.Evicts settings env name) →
      ∀ e ∈ t.entries settings env, ∀ f ∈ u.entries settings env,
        t.before.Allows settings env name e f := by
  intro turns
  have hkeyed : ∀ t ∈ turns, t.before.registry.Keyed :=
    fun t ht => (Controller.reachable_of_mem_turns ht).keyed
  refine ⟨fun t _ e he => Turn.creates_of_probe he, fun t ht => Turn.allows (hkeyed t ht), ?_⟩
  intro ts₁ t ts₂ u ts₃ hturns hnever e he f hf
  obtain ⟨hkept, hnever⟩ := List.forall_mem_cons.mp hnever
  refine ⟨?_, ?_⟩
  · intro hprobes hprobes'
    -- Since the first probe there is a record, and who has a record is not probed.
    have hrecorded : ∃ r, u.before.registry.get? name = some r := by
      apply Controller.turns_induct (P := fun c => ∃ r, c.registry.get? name = some r) hturns
      · exact Turn.recorded_of_probe he hprobes hkept
      · rintro v hv ⟨r, hr⟩
        obtain ⟨r', hr', -⟩ := Turn.present hr (hnever v hv)
        exact ⟨r', hr'⟩
    obtain ⟨r, hr⟩ := hrecorded
    obtain ⟨-, hnone, -⟩ := Turn.creates_of_probe hf hprobes'
    rw [hnone] at hr
    cases hr
  · intro hblames hasks
    -- The invariant is carried from the turn of the failure to the turn of the call.
    have hrem : u.before.Remembers name e.ended := by
      apply Controller.turns_induct (P := (·.Remembers name e.ended)) hturns
      · exact Turn.remembers_failure he hblames hkept
      · exact fun v hv hrem => Turn.remembers hrem (hnever v hv)
    have hu : u ∈ turns := by simp [hturns]
    exact Turn.waits (hkeyed u hu) hrem hf hasks

/-- The first cycle probes the worker for twenty seconds. -/
theorem probe_of_unreachable_worker :
    (Turn.entries sampleSettings (relistedEnvironment sampleWorker) ⟨.new (), .cycle⟩)[1]? =
      some ⟨0, 20000000000, .probed "worker" "10.0.0.7" false⟩ := rfl

/-- The second cycle asks the agent of the worker. -/
theorem call_after_cooldown :
    (Turn.entries sampleSettings (relistedEnvironment sampleWorker)
      ⟨.run sampleSettings (relistedEnvironment sampleWorker) (.new ()) cooldownMoves,
        .cycle⟩)[1]? =
      some ⟨320001000000, 320001000000, .asked "worker" "10.0.0.7" (.ok "1.0.0")⟩ := rfl

/-- A worker whose probe gives up after twenty seconds, and whose agent is called five minutes and a
millisecond later. -/
theorem unreachable_worker_waits :
    let env := relistedEnvironment sampleWorker
    let t : Turn Unit := ⟨.new (), .cycle⟩
    let u : Turn Unit := ⟨.run sampleSettings env (.new ()) cooldownMoves, .cycle⟩
    let e : Entry := ⟨0, 20000000000, .probed "worker" "10.0.0.7" false⟩
    let f : Entry := ⟨320001000000, 320001000000, .asked "worker" "10.0.0.7" (.ok "1.0.0")⟩
    e ∈ t.entries sampleSettings env ∧ f ∈ u.entries sampleSettings env ∧
      t.before.Blames sampleSettings env "worker" e.event ∧ f.event.AsksAgent "worker" ∧
      e.ended + sampleSettings.retryCooldown.nanos < f.began := by
  intro env t u e f
  have he : e ∈ t.entries sampleSettings env := List.mem_of_getElem? probe_of_unreachable_worker
  have hf : f ∈ u.entries sampleSettings env := List.mem_of_getElem? call_after_cooldown
  have hblames : t.before.Blames sampleSettings env "worker" e.event := .inl ⟨"10.0.0.7", rfl⟩
  have hasks : f.event.AsksAgent "worker" := ⟨rfl, nofun⟩
  have hidle : (t.before.runCycle sampleSettings env).1 = .idle := rfl
  have hkept : ¬ t.Evicts sampleSettings env "worker" := by
    rintro ⟨-, hevicted⟩
    rw [hidle] at hevicted
    cases hevicted
  have hnever : ∀ v ∈ [t, ⟨t.after sampleSettings env, .sleep (.ofMillis 300001)⟩],
      ¬ v.Evicts sampleSettings env "worker" :=
    List.forall_mem_cons.mpr ⟨hkept, List.forall_mem_singleton.mpr nofun⟩
  obtain ⟨-, -, hlater⟩ :=
    run_respects_cooldown sampleSettings env () (cooldownMoves ++ [.cycle]) "worker"
  have hallows := hlater [] t _ u [] (Controller.turns_append _ _ _ _ _) hnever e he f hf
  exact ⟨he, hf, hblames, hasks, hallows.wait hblames hasks⟩

end NodeAdmission.Admission
