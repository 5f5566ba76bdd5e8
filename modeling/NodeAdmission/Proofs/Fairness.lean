import Mathlib.Data.List.Nodup
import Mathlib.Data.List.Perm.Subperm
import NodeAdmission.Proofs.Cooldown
import NodeAdmission.Proofs.Finality
import NodeAdmission.Proofs.Outcomes

/-!
# Turns for everybody

A node that a cycle has dealt with is left alone for the cooldown, so other nodes get their turn.
The exception is a node that was expelled: its record is forgotten, and if it is still listed then
the next cycle deals with it again, before all nodes that are listed behind it
(`expelled_worker_starves_next`).

The argument counts. All cycles of a run are within one cooldown, and they do not
come to a certain entry.

1. Each of them deals with an entry in front of that one, since otherwise its scan would come to the
   entry (`Turn.exists_trial`).
2. These entries awaited an attempt when the run began, for nobody starts to await one on the way
   (`Controller.awaits_of_mem_turns`).
3. They are different, if none of the nodes was expelled. While the cooldown lasts no cycle names a
   node that is remembered, and every cycle remembers its own (`Controller.pairwise_outcomes`).
4. So there are at most as many cycles as there are entries in front that awaited an attempt
   (`Controller.looksAt_of_awaiting`).

What carries the third step is `Controller.Remembers`, the invariant of the cooldowns, with the
instant at which the cycles began. Main statement: `run_cycles_share_cooldown`.
-/

namespace NodeAdmission.Admission

open Cluster (Node)

/-- A scan that comes to the entry tries it: there is an unverified record of the node, or there is
none and it is a worker. A cooldown does not count. -/
def Controller.awaits (settings : Settings) (c : Controller ω) (node : Node) : Bool :=
  match c.registry.get? node.name with
  | some r => node.isReady && !r.verified
  | none => settings.isWorker node

/-- The scan of the turn comes to the entry: it finds nobody in front of it. -/
def Turn.LooksAt (settings : Settings) (env : Environment ω) (t : Turn ω) (node : Node) : Prop :=
  ∃ earlier later, (t.before.session.listNodes env).1 = .ok (earlier ++ node :: later) ∧
    (Controller.visitAll settings env
      { t.before with session := (t.before.session.listNodes env).2 } earlier).1 = none

/-- One of the cycles comes to the entry. -/
def Controller.LooksAt (settings : Settings) (env : Environment ω) (c : Controller ω)
    (ms : List Move) (node : Node) : Prop :=
  ∃ t ∈ c.turns settings env ms, t.move = .cycle ∧ t.LooksAt settings env node

/-- What two cycles can have come to, the first one earlier: if both name the same node then the
first one expelled it. -/
def CycleOutcome.Precedes (o p : CycleOutcome) : Prop :=
  ∀ name, o.node? = some name → p.node? = some name → o = .remediated name

variable {settings : Settings} {env : Environment ω} {c c' : Controller ω} {node : Node}
  {nodes earlier later : List Node} {name : String} {since : Instant} {r : NodeRecord}
  {es : List Entry} {outcome : CycleOutcome} {t : Turn ω} {ms : List Move}

/-! ### One cycle -/

theorem Course.scan_now_le (h : Course settings env c es outcome c') :
    (c.scan settings env).2.session.now ≤ c'.session.now := by
  cases h with
  | quiet hsurvey hnobody houtcome => exact Nat.le_refl _
  | kept t hstages houtcome =>
    exact Nat.le_trans hstages.attempt_calls.now_le hstages.steps_calls.now_le
  | evicted t hstages =>
    exact Nat.le_trans hstages.attempt_calls.now_le hstages.steps_calls.now_le

/-- Who is on trial has waited for the cooldown of what is remembered. -/
theorem Trial.elapsed (u : Trial settings env c) (hrem : c.Remembers u.node since) :
    since + settings.retryCooldown.nanos < (c.scan settings env).2.session.now := by
  obtain ⟨es, hsurvey⟩ := c.scan_survey settings env
  exact (hsurvey.waited hrem).elapsed u.found

namespace Turn

/-- Within the cooldown no cycle names a node that is remembered. -/
theorem node?_ne_of_remembers (hrem : t.before.Remembers name since)
    (hwithin : (t.after settings env).session.now ≤ since + settings.retryCooldown.nanos)
    (h : t.outcome? settings env = some outcome) : outcome.node? ≠ some name := by
  intro hname
  obtain ⟨u, rfl⟩ := trial_of_outcome? h hname
  have hscan := (course_of_outcome? h).scan_now_le
  exact Nat.not_lt.mpr (Nat.le_trans hscan hwithin) (u.elapsed hrem)

/-- Within the cooldown nobody is forgotten: to be forgotten a node must be on trial. -/
theorem remembers_within (hrem : t.before.Remembers name since)
    (hwithin : (t.after settings env).session.now ≤ since + settings.retryCooldown.nanos) :
    (t.after settings env).Remembers name since := by
  apply t.remembers hrem
  rintro ⟨hmove, hevicted⟩
  exact node?_ne_of_remembers hrem hwithin (outcome?_eq_some_iff.mpr ⟨hmove, hevicted⟩) rfl

/-- A cycle that names a node and does not forget it remembers it. -/
theorem remembers_outcome (h : t.outcome? settings env = some outcome)
    (hname : outcome.node? = some name) (hkept : outcome ≠ .remediated name) :
    (t.after settings env).Remembers name t.before.session.now := by
  obtain ⟨u, rfl⟩ := trial_of_outcome? h hname
  refine ⟨_, (course_of_outcome? h).tried u hkept, ?_⟩
  cases u.result with
  | ok _ => exact .inl rfl
  | error err =>
    obtain ⟨es, hsurvey⟩ := t.before.scan_survey settings env
    obtain ⟨fs, hcalls, -⟩ := u.calls
    exact .inr ⟨u.session.now, rfl, Nat.le_trans hsurvey.calls.now_le hcalls.now_le⟩

end Turn

/-! ### Cycles within one cooldown -/

namespace Controller

/-- So it is for all the cycles of a run. -/
theorem node?_ne_of_remembers (hrem : c.Remembers name since)
    (hwithin : (c.run settings env ms).session.now ≤ since + settings.retryCooldown.nanos) :
    ∀ outcome ∈ c.outcomes settings env ms, outcome.node? ≠ some name := by
  intro outcome hmem
  obtain ⟨t, ht, houtcome⟩ := mem_outcomes_iff.mp hmem
  obtain ⟨ts, ts', hturns⟩ := List.append_of_mem ht
  have hturn : ∀ u ∈ c.turns settings env ms,
      (u.after settings env).session.now ≤ since + settings.retryCooldown.nanos :=
    fun u hu => Nat.le_trans (now_le_of_mem_turns hu).2 hwithin
  obtain ⟨ms₁, m, ms₂, -, rfl, rfl, -⟩ := turns_split hturns
  refine Turn.node?_ne_of_remembers ?_ (hturn _ ht) houtcome
  -- The turns before this one did not name the node either, so it is still remembered.
  apply run_induct (P := (·.Remembers name since)) hrem
  intro u hu hbefore
  exact Turn.remembers_within hbefore (hturn u (by simp [hturns, hu]))

/-- Of the cycles within one cooldown two name the same node only if the first expelled it. -/
theorem pairwise_outcomes (hnow : since ≤ c.session.now)
    (hwithin : (c.run settings env ms).session.now ≤ since + settings.retryCooldown.nanos) :
    (c.outcomes settings env ms).Pairwise CycleOutcome.Precedes := by
  induction ms generalizing c with
  | nil => exact .nil
  | cons m ms ih =>
    have hle : c.session.now ≤ (c.move settings env m).session.now :=
      (Turn.calls settings env ⟨c, m⟩).now_le
    have hrest : ((c.move settings env m).outcomes settings env ms).Pairwise _ :=
      ih (Nat.le_trans hnow hle) hwithin
    cases m with
    | scan => exact hrest
    | sleep interval => exact hrest
    | cycle =>
      refine List.pairwise_cons.mpr ⟨?_, hrest⟩
      intro p hp name hname hname'
      -- If the first cycle had kept the node, it would be remembered, and
      -- nobody would name it again.
      by_contra hkept
      have hrem : (c.runCycle settings env).2.Remembers name c.session.now :=
        Turn.remembers_outcome (t := ⟨c, .cycle⟩) rfl hname hkept
      obtain ⟨r, hr, hsince⟩ := hrem
      refine node?_ne_of_remembers ⟨r, hr, hsince.imp_right ?_⟩ hwithin p hp hname'
      rintro ⟨start, hstart, hlater⟩
      exact ⟨start, hstart, Nat.le_trans hnow hlater⟩

end Controller

/-! ### Who is tried

Within one cooldown nobody is tried twice, so the cycles that deal with others than the node can be
counted by those that stand in front of it. -/

section Listed

variable (hdistinct : (nodes.map Node.name).Nodup)
include hdistinct

/-- The node on trial awaited its attempt. -/
theorem Trial.awaited (u : Trial settings env c) (hlist : (c.session.listNodes env).1 = .ok nodes) :
    ∃ node ∈ nodes, node.name = u.node ∧ c.awaits settings node = true := by
  obtain ⟨es, hsurvey⟩ := c.scan_survey settings env
  have hfound := hsurvey
  rw [u.found] at hfound
  obtain ⟨nodes', hlist', node, hmem, hname, hready⟩ := hfound.ready_of_found
  obtain rfl : nodes = nodes' := Except.ok.inj (hlist.symm.trans hlist')
  refine ⟨node, hmem, hname, ?_⟩
  rw [Controller.awaits, hname]
  -- The record was there, unverified, or the scan has made it, for a worker.
  cases hr : c.registry.get? u.node with
  | some r => simp [hready, (u.unverified_before hr).1]
  | none =>
    obtain ⟨nodes', hlist', m, hm, hmname, hmade⟩ := hsurvey.created hr u.recorded
    obtain rfl : nodes = nodes' := Except.ok.inj (hlist.symm.trans hlist')
    obtain rfl := List.inj_on_of_nodup_map hdistinct hm hmem (hmname.trans hname.symm)
    exact hmade.isWorker u.unverified

/-- A record that a cycle makes and does not verify is that of a worker. -/
theorem Turn.worker_of_created
    (hlist : t.move = .scan ∨ t.move = .cycle → (t.before.session.listNodes env).1 = .ok nodes)
    (hmem : node ∈ nodes) (hnone : t.before.registry.get? node.name = none)
    (hr : (t.after settings env).registry.get? node.name = some r)
    (hunverified : r.verified = false) :
    settings.isWorker node = true := by
  obtain ⟨es, hsurvey⟩ := t.before.scan_survey settings env
  -- A record that a scan makes and leaves unverified is made for a worker.
  have hmade : ∀ {s}, t.move = .scan ∨ t.move = .cycle →
      (t.before.scan settings env).2.registry.get? node.name = some s → s.verified = false →
      settings.isWorker node = true := by
    intro s hmove hs hunverified
    obtain ⟨nodes', hlist', m, hm, hmname, hmade⟩ := hsurvey.created hnone hs
    obtain rfl : nodes = nodes' := Except.ok.inj ((hlist hmove).symm.trans hlist')
    obtain rfl := List.inj_on_of_nodup_map hdistinct hm hmem hmname
    exact hmade.isWorker hunverified
  have hkept := Turn.not_evicts hr
  cases hmove : t.move with
  | scan =>
    rw [Turn.after, hmove] at hr
    exact hmade (.inl hmove) hr hunverified
  | sleep interval =>
    rw [Turn.after, hmove, Controller.move_sleep] at hr
    rw [hnone] at hr
    cases hr
  -- The record is as the scan left it, or an attempt has failed on it.
  | cycle =>
    have hcourse : Course settings env t.before _ _ (t.after settings env) := course_of_cycle hmove
    cases hs : (t.before.scan settings env).2.registry.get? node.name with
    | none =>
      rw [hcourse.absent hs] at hr
      cases hr
    | some s =>
      refine hmade (.inr hmove) hs ?_
      rcases hcourse.present (fun h => hkept ⟨hmove, h⟩) hs with hr' | ⟨u, -, hrecord, -⟩
      · rw [hr] at hr'
        rwa [← Option.some.inj hr']
      · exact hrecord ▸ u.unverified

/-- Nobody awaits an attempt after a turn who did not before. -/
theorem Turn.awaits_before (hkeyed : t.before.registry.Keyed)
    (hlist : t.move = .scan ∨ t.move = .cycle → (t.before.session.listNodes env).1 = .ok nodes)
    (hmem : node ∈ nodes) (h : (t.after settings env).awaits settings node = true) :
    t.before.awaits settings node = true := by
  unfold Controller.awaits at h ⊢
  -- A verified node awaits nothing ever again, and a new record is made for workers.
  cases hbefore : t.before.registry.get? node.name with
  | none =>
    cases hafter : (t.after settings env).registry.get? node.name with
    | none => simpa [hafter] using h
    | some r =>
      have hawaits : node.isReady = true ∧ r.verified = false := by simpa [hafter] using h
      exact Turn.worker_of_created hdistinct hlist hmem hbefore hafter hawaits.2
  | some r =>
    cases hverified : r.verified with
    | true =>
      have hr' : (t.after settings env).registry.get? node.name = some r :=
        (Turn.leavesAlone hkeyed hbefore hverified).after
      simp [hr', hverified] at h
    | false =>
      have hready : node.isReady = true := by
        cases hafter : (t.after settings env).registry.get? node.name with
        | none => exact (Settings.isWorker_iff.mp (by simpa [hafter] using h)).1
        | some r' => exact (by simpa [hafter] using h : node.isReady = true ∧ _).1
      simp [hready, hverified]

/-- Who awaits an attempt in some turn of a run awaited it from the beginning. -/
theorem Controller.awaits_of_mem_turns (hkeyed : c.registry.Keyed)
    (hlists : ∀ t ∈ c.turns settings env ms, t.move = .scan ∨ t.move = .cycle →
      (t.before.session.listNodes env).1 = .ok nodes)
    (hmem : node ∈ nodes) (ht : t ∈ c.turns settings env ms)
    (h : t.before.awaits settings node = true) : c.awaits settings node = true := by
  induction ms generalizing c with
  | nil => cases ht
  | cons m ms ih =>
    obtain ⟨hfirst, hlists⟩ := List.forall_mem_cons.mp hlists
    rcases List.mem_cons.mp ht with rfl | ht
    · exact h
    · have hafter := ih (Turn.keyed (t := ⟨c, m⟩) hkeyed) hlists ht
      exact Turn.awaits_before (t := ⟨c, m⟩) hdistinct hkeyed hfirst hmem hafter

end Listed

/-! ### Who is looked at

The first step of the argument and the last one. A cycle that does not come to an entry deals with
one in front of it, and of these there are too few for all cycles. -/

/-- If the scan of a turn does not come to an entry then it finds one in front of it. -/
theorem Turn.exists_trial
    (hlist : (t.before.session.listNodes env).1 = .ok (earlier ++ node :: later))
    (hnot : ¬ t.LooksAt settings env node) :
    ∃ u : Trial settings env t.before, u.node ∈ earlier.map Node.name := by
  have hscan : (t.before.scan settings env).1 = .ok _ :=
    congrArg Prod.fst (Controller.scan_of_listed settings hlist)
  cases hfound : (Controller.visitAll settings env
      { t.before with session := (t.before.session.listNodes env).2 } earlier).1 with
  | none => exact absurd ⟨earlier, later, hlist, hfound⟩ hnot
  | some name =>
    rw [Controller.visitAll_append_of_found (node :: later) hfound, hfound] at hscan
    obtain ⟨u, rfl⟩ := Trial.of_found hscan
    obtain ⟨es, hvisits⟩ := Controller.visitAll_visits settings env
      { t.before with session := (t.before.session.listNodes env).2 } earlier
    rw [hfound] at hvisits
    obtain ⟨m, hmem, hname, -⟩ := hvisits.ready_of_found
    exact ⟨u, List.mem_map.mpr ⟨m, hmem, hname⟩⟩

namespace Controller

/-- Cycles that forget nobody come to every entry in front of which fewer entries await an attempt
than there are cycles. -/
theorem looksAt_of_awaiting (hkeyed : c.registry.Keyed)
    (hdistinct : ((earlier ++ node :: later).map Node.name).Nodup)
    (hlists : ∀ t ∈ c.turns settings env ms, t.move = .scan ∨ t.move = .cycle →
      (t.before.session.listNodes env).1 = .ok (earlier ++ node :: later))
    (hwithin : (c.run settings env ms).session.now ≤
      c.session.now + settings.retryCooldown.nanos)
    (hkept : ∀ name, .remediated name ∉ c.outcomes settings env ms)
    (hfew : (earlier.filter (c.awaits settings)).length < ms.countP Move.isCycle) :
    c.LooksAt settings env ms node := by
  by_contra hnever
  unfold LooksAt at hnever
  push Not at hnever
  -- Every cycle deals with an entry in front of this one, and each with another.
  have hnames : ∀ o ∈ c.outcomes settings env ms,
      ∃ m ∈ earlier.filter (c.awaits settings), o.node? = some m.name := by
    intro o ho
    obtain ⟨t, ht, houtcome⟩ := mem_outcomes_iff.mp ho
    obtain ⟨hmove, -⟩ := Turn.outcome?_eq_some_iff.mp houtcome
    have hlist := hlists t ht (.inr hmove)
    obtain ⟨u, hu⟩ := Turn.exists_trial hlist (hnever t ht hmove)
    obtain ⟨m, hm, hname, hawaits⟩ := u.awaited hdistinct hlist
    obtain ⟨m', hm', hname'⟩ := List.mem_map.mp hu
    obtain rfl := List.inj_on_of_nodup_map hdistinct (List.mem_append_left _ hm') hm
      (hname'.trans hname.symm)
    have hfirst := awaits_of_mem_turns hdistinct hkeyed hlists hm ht hawaits
    refine ⟨m', List.mem_filter.mpr ⟨hm', hfirst⟩, ?_⟩
    rw [(Turn.course_of_outcome? houtcome).node?_eq u, hname]
  -- Here the expelled nodes are excluded.
  have hdiffer : ((c.outcomes settings env ms).map CycleOutcome.node?).Nodup := by
    refine List.pairwise_map.mpr ((pairwise_outcomes (Nat.le_refl _) hwithin).imp_of_mem ?_)
    intro o p ho hp hprecedes heq
    obtain ⟨m, -, hname⟩ := hnames o ho
    apply hkept m.name
    rw [← hprecedes m.name hname (heq ▸ hname)]
    exact ho
  have hsubset : (c.outcomes settings env ms).map CycleOutcome.node? ⊆
      (earlier.filter (c.awaits settings)).map (some ·.name) := by
    intro name? hmem
    obtain ⟨o, ho, rfl⟩ := List.mem_map.mp hmem
    obtain ⟨m, hm, hname⟩ := hnames o ho
    exact List.mem_map.mpr ⟨m, hm, hname.symm⟩
  -- So there are no more cycles than entries in front that awaited an attempt.
  have hlength := (hdiffer.subperm hsubset).length_le
  rw [List.length_map, List.length_map, length_outcomes] at hlength
  exact Nat.not_lt.mpr hlength hfew

end Controller

/-- What cycles do for the entries of a listing that stays the same, all within one cooldown. If
two of them name the same node then the earlier one has expelled it. If none of them has expelled
anybody, then they come to every entry in front of which fewer entries await an attempt than
there are cycles. As many cycles as there are workers are enough for every worker, unless others
have an unverified record. -/
theorem run_cycles_share_cooldown (hc : c.Reachable settings env)
    (hdistinct : (nodes.map Node.name).Nodup)
    (hlists : ∀ t ∈ c.turns settings env ms, t.move = .scan ∨ t.move = .cycle →
      (t.before.session.listNodes env).1 = .ok nodes)
    (hwithin : (c.run settings env ms).session.now ≤
      c.session.now + settings.retryCooldown.nanos) :
    (c.outcomes settings env ms).Pairwise CycleOutcome.Precedes ∧
      ((∀ name, .remediated name ∉ c.outcomes settings env ms) →
        (∀ earlier node later, nodes = earlier ++ node :: later →
          (earlier.filter (c.awaits settings)).length < ms.countP Move.isCycle →
          c.LooksAt settings env ms node) ∧
        ((∀ node ∈ nodes, c.awaits settings node = true → settings.isWorker node = true) →
          (nodes.filter settings.isWorker).length ≤ ms.countP Move.isCycle →
          ∀ node ∈ nodes, settings.isWorker node = true → c.LooksAt settings env ms node)) := by
  refine ⟨Controller.pairwise_outcomes (Nat.le_refl _) hwithin, fun hkept => ?_⟩
  have hfew : ∀ earlier node later, nodes = earlier ++ node :: later →
      (earlier.filter (c.awaits settings)).length < ms.countP Move.isCycle →
      c.LooksAt settings env ms node := by
    rintro earlier node later rfl hfew
    exact Controller.looksAt_of_awaiting hc.keyed hdistinct hlists hwithin hkept hfew
  refine ⟨hfew, ?_⟩
  intro hworkers hmany node hmem hworker
  obtain ⟨earlier, later, rfl⟩ := List.append_of_mem hmem
  apply hfew earlier node later rfl
  -- The entry itself is one more worker than those in front of it.
  have hearlier : (earlier.filter (c.awaits settings)).length ≤
      (earlier.filter settings.isWorker).length := by
    rw [← List.countP_eq_length_filter, ← List.countP_eq_length_filter]
    apply List.countP_mono_left
    intro m hm hawaits
    exact hworkers m (List.mem_append_left _ hm) hawaits
  have hall : (earlier.filter settings.isWorker).length <
      ((earlier ++ node :: later).filter settings.isWorker).length := by
    simp [List.filter_append, hworker]
  exact Nat.lt_of_le_of_lt hearlier (Nat.lt_of_lt_of_le hall hmany)

/-! ### Two workers without agents -/

def secondWorker : Node :=
  { sampleWorker with name := "worker-2", addresses := [⟨"InternalIP", "10.0.0.8"⟩] }

/-- Two workers whose agents do not answer. They stay listed whatever is done to them. -/
def silentEnvironment (drain : Except Cluster.OrchestratorError Unit) : Environment Unit :=
  { sampleEnvironment with
    listNodes := pure (.ok [sampleWorker, secondWorker])
    version := fun _ => pure (.error (.unexpectedStatus 503 "down"))
    apply := fun step _ => pure (if step = .drain then drain else .ok ()) }

/-- Workers that cannot be drained get one cycle each. -/
theorem undrained_workers_share_cooldown :
    let env := silentEnvironment (.error (.commandFailed "drain" "1" "busy"))
    let c := Controller.new ()
    let ms := [Move.cycle, .cycle]
    c.outcomes sampleSettings env ms =
      [.remediationFailed "worker", .remediationFailed "worker-2"] ∧
      (c.outcomes sampleSettings env ms).Pairwise CycleOutcome.Precedes ∧
      c.LooksAt sampleSettings env ms secondWorker := by
  intro env c ms
  have houtcomes : c.outcomes sampleSettings env ms =
      [.remediationFailed "worker", .remediationFailed "worker-2"] := rfl
  have hlists : ∀ t ∈ c.turns sampleSettings env ms, t.move = .scan ∨ t.move = .cycle →
      (t.before.session.listNodes env).1 = .ok [sampleWorker, secondWorker] := fun _ _ _ => rfl
  obtain ⟨hpairwise, hlooks⟩ := run_cycles_share_cooldown (c := c) ⟨(), [], rfl⟩ (by decide) hlists
    (by decide)
  refine ⟨houtcomes, hpairwise, (hlooks ?_).1 [sampleWorker] secondWorker [] rfl (by decide)⟩
  rw [houtcomes]
  simp

/-- Two cycles within the cooldown deal with the same worker, which is deleted and stays listed. The
worker behind it is not even recorded. -/
theorem expelled_worker_starves_next :
    let env := silentEnvironment (.ok ())
    let c := Controller.new ()
    let ms := [Move.cycle, .cycle]
    ([sampleWorker, secondWorker].map Node.name).Nodup ∧
      [sampleWorker, secondWorker].all sampleSettings.isWorker = true ∧
      (∀ t ∈ c.turns sampleSettings env ms,
        (t.before.session.listNodes env).1 = .ok [sampleWorker, secondWorker]) ∧
      (c.run sampleSettings env ms).session.now <
        c.session.now + sampleSettings.retryCooldown.nanos ∧
      c.outcomes sampleSettings env ms = [.remediated "worker", .remediated "worker"] ∧
      (c.run sampleSettings env ms).registry.get? "worker-2" = none :=
  ⟨by decide, by decide, fun _ _ => rfl, by decide, rfl, rfl⟩

end NodeAdmission.Admission
