import Mathlib.Data.List.Nodup
import NodeAdmission.Proofs.Pace

/-!
# Convergence on an honest cluster

If the listing stays the same, every worker is reached and every verification succeeds, then each
cycle verifies the next worker of the listing, and when all of them are verified nothing is left to
do. The scan reads the listing from its beginning every time, so the question is what it finds in
front of the next worker. The answer is an invariant: after each cycle the registry holds what
becomes of the entries read so far and nothing else (`Registry.Holds`).

* `Visits.of_settled` — entries that are settled are passed over without a change.
* `Visits.of_idlers` — an entry that is no worker is settled on the way.
* `Visits.of_worker` — the next worker is probed and ends the scan.
* `Course.of_idlers`, `Course.of_worker` — the same for cycles, which verify
  the worker that was found.
* `Controller.Settles` — what is claimed of a run, with the entries that are settled and those that
  are left as parameters. `Settles.nil`, `sleep`, `idle_cycle` and `worker_cycle` are the steps of
  `Controller.settles`, by induction on the moves.
* `honest_cluster_converges` — the main statement, for runs and for the rounds of the loop.

Names must be different. With a name listed twice, once as a worker and once as a node of the
control plane, what becomes of the name would depend on the order of its entries.

That a verification succeeds is a hypothesis here. What it takes to succeed is the subject of
`honest_worker_verified`.
-/

namespace NodeAdmission.Admission

open Cluster (Node)

/-- What an honest cluster makes of an entry in the end: the record of a node that is ready and has
an address, verified. -/
def Settings.settlement? (settings : Settings) (node : Node) : Option NodeRecord :=
  if node.isReady then
    (node.internalIp? settings.internalIpAnnotation).map fun ip =>
      { name := node.name, ip, verified := true }
  else none

/-- The registry holds what becomes of these entries, and nothing else. -/
structure Registry.Holds (settings : Settings) (g : Registry) (done : List Node) : Prop where
  settled : ∀ node ∈ done, g.get? node.name = settings.settlement? node
  others : ∀ name, name ∉ done.map Node.name → g.get? name = none

/-- A cycle on an honest cluster with these entries: the cluster lists them, whoever is probed is
reached, and a verification succeeds. -/
structure Turn.Honest (settings : Settings) (env : Environment ω) (t : Turn ω) (nodes : List Node) :
    Prop where
  listed : (t.before.session.listNodes env).1 = .ok nodes
  reached : ∀ e ∈ t.entries settings env, ∀ name ip answer, e.event = .probed name ip answer →
    answer = true
  succeeds : ∀ u : Trial settings env t.before, u.result = .ok ()

def Request.isProbe : Request → Bool
  | .probe _ _ => true
  | .list => false
  | .apply _ _ => false
  | .version _ _ => false
  | .encrypt _ _ _ => false
  | .register _ => false
  | .decrypt _ _ _ => false
  | .sleep _ => false

def probes (es : List Entry) : List Request := (requests es).filter Request.isProbe

/-- The probe of a node that has an address. -/
def Settings.probeOf (settings : Settings) (node : Node) : Request :=
  .probe node.name ((node.internalIp? settings.internalIpAnnotation).getD "")

/-- What a run on an honest cluster comes to, when the entries `done` are settled and `rest` are
left: the workers are verified in turn, each with one probe, and after that every cycle is idle. -/
structure Controller.Settles (settings : Settings) (env : Environment ω) (c : Controller ω)
    (done rest : List Node) (ms : List Move) : Prop where
  outcomes : c.outcomes settings env ms =
    ((rest.filter settings.isWorker).take (ms.countP Move.isCycle)).map (.verified ·.name) ++
      .replicate (ms.countP Move.isCycle - (rest.filter settings.isWorker).length) .idle
  probes : probes ((c.turns settings env ms).flatMap (·.entries settings env)) =
    ((rest.filter settings.isWorker).take (ms.countP Move.isCycle)).map settings.probeOf
  idle : ∀ t ∈ c.turns settings env ms, t.outcome? settings env = some .idle →
    requests (t.entries settings env) = [.list]
  settled : (rest.filter settings.isWorker).length < ms.countP Move.isCycle ∨ rest = [] →
    (c.run settings env ms).registry.Holds settings (done ++ rest)

variable {settings : Settings} {env : Environment ω} {c c' : Controller ω} {g g' : Registry}
  {node : Node} {nodes done rest passed later : List Node} {name : String} {r : NodeRecord}
  {found : Bool} {found? : Option String} {e : Entry} {es fs : List Entry}
  {result : Except AdmissionError (Option String)} {outcome : CycleOutcome} {t : Turn ω}
  {ms : List Move}

/-! ### What the registry holds

`Registry.Holds` is the invariant: the registry holds what becomes of the entries that have been
settled so far, and nothing else. -/

/-- A worker is settled with a verified record. -/
theorem Settings.settlement?_of_worker (h : settings.isWorker node = true) :
    ∃ ip, node.internalIp? settings.internalIpAnnotation = some ip ∧
      settings.settlement? node = some { name := node.name, ip, verified := true } := by
  obtain ⟨hready, ⟨ip, hip⟩, -⟩ := isWorker_iff.mp h
  exact ⟨ip, hip, by simp [settlement?, hready, hip]⟩

/-- Only a node that is ready and has an address is settled with a record. -/
theorem Settings.of_settlement? (h : settings.settlement? node = some r) :
    r.name = node.name ∧ r.verified = true ∧ node.isReady = true ∧
      node.internalIp? settings.internalIpAnnotation = some r.ip := by
  unfold settlement? at h
  split at h
  · next hready =>
    obtain ⟨ip, hip, rfl⟩ := Option.map_eq_some_iff.mp h
    exact ⟨rfl, rfl, hready, hip⟩
  · cases h

/-- The names of the records are those of their entries, in order. -/
theorem Settings.names_settlements_sublist (settings : Settings) (nodes : List Node) :
    ((nodes.filterMap settings.settlement?).map NodeRecord.name).Sublist (nodes.map Node.name) := by
  induction nodes with
  | nil => exact .slnil
  | cons node nodes ih =>
    cases hr : settings.settlement? node with
    | none =>
      rw [List.filterMap_cons_none hr]
      exact ih.cons _
    | some r =>
      rw [List.filterMap_cons_some hr, List.map_cons, List.map_cons, (of_settlement? hr).1]
      exact ih.cons_cons _

namespace Registry.Holds

theorem empty (settings : Settings) : Registry.empty.Holds settings [] where
  settled := nofun
  others _ _ := rfl

theorem snoc (h : g.Holds settings done) (hnew : node.name ∉ done.map Node.name)
    (hputs : g.Puts node.name (settings.settlement? node) g') :
    g'.Holds settings (done ++ [node]) where
  settled m hm := by
    rcases List.mem_append.mp hm with hm | hm
    · -- The names are different, so the records made before are not touched.
      have hne : m.name ≠ node.name := by
        rintro heq
        exact hnew (heq ▸ List.mem_map_of_mem hm)
      rw [hputs.other hne, h.settled m hm]
    · rw [List.mem_singleton.mp hm, hputs.self]
  others name hname := by
    rw [List.map_append, List.mem_append, not_or] at hname
    have hne : name ≠ node.name := by simpa using hname.2
    rw [hputs.other hne, h.others name hname.1]

/-- The records of such a registry are those of its entries. -/
theorem get?_eq_some_iff (h : g.Holds settings done) :
    g.get? name = some r ↔
      ∃ node ∈ done, node.name = name ∧ settings.settlement? node = some r := by
  constructor
  · intro hr
    by_cases hname : name ∈ done.map Node.name
    · obtain ⟨node, hmem, rfl⟩ := List.mem_map.mp hname
      rw [h.settled node hmem] at hr
      exact ⟨node, hmem, rfl, hr⟩
    · rw [h.others name hname] at hr
      cases hr
  · rintro ⟨node, hmem, rfl, hr⟩
    rw [h.settled node hmem, hr]

/-- All records are verified, and there is one for every entry that gets one. -/
theorem counts (h : g.Holds settings done) (hdistinct : (done.map Node.name).Nodup) :
    g.size = (done.filterMap settings.settlement?).length ∧ g.verifiedCount = g.size := by
  refine ⟨?_, ?_⟩
  · -- The names of the records are those of the entries that get one, in some order.
    have hperm : (g.entries.map Prod.fst).Perm
        ((done.filterMap settings.settlement?).map NodeRecord.name) := by
      refine (List.perm_ext_iff_of_nodup g.nodup ?_).mpr ?_
      · exact hdistinct.sublist (Settings.names_settlements_sublist settings done)
      · intro name
        rw [Registry.mem_names_iff, List.mem_map]
        constructor
        · rintro ⟨r, hr⟩
          obtain ⟨node, hmem, rfl, hsettled⟩ := h.get?_eq_some_iff.mp hr
          exact ⟨r, List.mem_filterMap.mpr ⟨node, hmem, hsettled⟩,
            (Settings.of_settlement? hsettled).1⟩
        · rintro ⟨r, hr, rfl⟩
          obtain ⟨node, hmem, hr⟩ := List.mem_filterMap.mp hr
          exact ⟨r, h.get?_eq_some_iff.mpr ⟨node, hmem, (Settings.of_settlement? hr).1.symm, hr⟩⟩
    have hlength := hperm.length_eq
    rw [List.length_map, List.length_map] at hlength
    exact hlength
  · refine List.countP_eq_length.mpr ?_
    rintro ⟨name, r⟩ hmem
    obtain ⟨node, -, -, hr⟩ := h.get?_eq_some_iff.mp (Registry.get?_of_mem hmem)
    exact (Settings.of_settlement? hr).2.1

end Registry.Holds

/-! ### Visits

The listing in front of a scan is in three parts: entries that are settled, entries that
are no workers, and the next worker. There is one lemma for each part, and together they
say all that a scan does. -/

/-- An entry that is settled is passed over. -/
theorem Visit.of_settled (h : Visit settings env c node found c')
    (hsettled : c.registry.get? node.name = settings.settlement? node) :
    found = false ∧ c' = c := by
  have hverified : ∀ {r}, c.registry.get? node.name = some r → r.verified = true :=
    fun hr => (Settings.of_settlement? (hsettled ▸ hr)).2.1
  -- A settled entry without a record is not ready or has no address.
  have hnever : ∀ {ip}, node.isReady = true → c.registry.get? node.name = none →
      node.internalIp? settings.internalIpAnnotation ≠ some ip := by
    intro ip hready hnone hip
    simp [hsettled, Settings.settlement?, hready, hip] at hnone
  cases h with
  | notReady | notDue | unaddressed => exact ⟨rfl, rfl⟩
  | retried hready hr hunverified hover hputs hcalls =>
    rw [hverified hr] at hunverified
    cases hunverified
  | exempted hready hnone hip hexempt hputs hcalls => exact absurd hip (hnever hready hnone)
  | reached hready hnone hip hworker hputs hcalls
  | deferred hready hnone hip hworker hputs hcalls => exact absurd hip (hnever hready hnone)

/-- An entry without a record that is no worker is settled by its visit, which calls nobody. -/
theorem Visit.of_idler (h : Visit settings env c node found c')
    (hnone : c.registry.get? node.name = none) (hidler : settings.isWorker node = false) :
    found = false ∧ c.registry.Puts node.name (settings.settlement? node) c'.registry ∧
      c.session.Calls env [] c'.session := by
  have hkept : settings.settlement? node = none →
      c.registry.Puts node.name (settings.settlement? node) c.registry := by
    intro hsettled
    rw [hsettled, ← hnone]
    exact Registry.puts_get? _ _
  -- A node that is ready, has an address and is not exempt would be a worker.
  have hbusy : ∀ {ip}, node.isReady = true →
      node.internalIp? settings.internalIpAnnotation = some ip →
      node.isControlPlane settings.controlPlaneLabels ≠ false := by
    intro ip hready hip hworker
    rw [Settings.isWorker_iff.mpr ⟨hready, ⟨ip, hip⟩, hworker⟩] at hidler
    cases hidler
  cases h with
  | notReady hready => exact ⟨rfl, hkept (by simp [Settings.settlement?, hready]), .refl _⟩
  | unaddressed hready hr hip => exact ⟨rfl, hkept (by simp [Settings.settlement?, hip]), .refl _⟩
  | notDue hready hr hwait =>
    rw [hnone] at hr
    cases hr
  | retried hready hr hunverified hover hputs hcalls =>
    rw [hnone] at hr
    cases hr
  | exempted hready hr hip hexempt hputs hcalls =>
    refine ⟨rfl, ?_, hcalls⟩
    simpa [Settings.settlement?, hready, hip] using hputs
  | reached hready hr hip hworker hputs hcalls
  | deferred hready hr hip hworker hputs hcalls => exact absurd hworker (hbusy hready hip)

namespace Visits

/-- Settled entries at the front of a listing are skipped without a trace. -/
theorem of_settled (h : Visits settings env c (done ++ rest) es found? c')
    (hsettled : ∀ node ∈ done, c.registry.get? node.name = settings.settlement? node) :
    Visits settings env c rest es found? c' := by
  induction done generalizing es with
  | nil => exact h
  | cons node done ih =>
    obtain ⟨hfirst, hsettled⟩ := List.forall_mem_cons.mp hsettled
    cases h with
    | pass hvisit hcalls hrest =>
      obtain ⟨-, rfl⟩ := hvisit.of_settled hfirst
      rw [hcalls.unique (.refl _), List.nil_append]
      exact ih hrest hsettled
    | stop hvisit hcalls => exact absurd (hvisit.of_settled hfirst).1 (by simp)

/-- Entries that are no workers are settled one after another, without a call. -/
theorem of_idlers (h : Visits settings env c (passed ++ rest) es found? c')
    (hholds : c.registry.Holds settings done)
    (hdistinct : ((done ++ passed).map Node.name).Nodup)
    (hidlers : ∀ node ∈ passed, settings.isWorker node = false) :
    ∃ c₁, c₁.registry.Holds settings (done ++ passed) ∧ c.session.Calls env [] c₁.session ∧
      Visits settings env c₁ rest es found? c' := by
  induction passed generalizing c done es with
  | nil => exact ⟨c, by simpa using hholds, .refl _, h⟩
  | cons node passed ih =>
    obtain ⟨hfirst, hidlers⟩ := List.forall_mem_cons.mp hidlers
    rw [List.append_cons] at hdistinct ⊢
    -- The name has not been settled before, since the listing is without repetitions.
    have hnew : node.name ∉ done.map Node.name := by
      have hprefix : ((done ++ [node]).map Node.name).Nodup :=
        hdistinct.sublist ((List.sublist_append_left _ _).map _)
      rw [List.map_append, List.nodup_append] at hprefix
      intro hmem
      exact hprefix.2.2 _ hmem _ (by simp) rfl
    have hnone := hholds.others node.name hnew
    cases h with
    | pass hvisit hcalls hrest =>
      obtain ⟨-, hputs, hsilent⟩ := hvisit.of_idler hnone hfirst
      rw [hcalls.unique hsilent, List.nil_append]
      obtain ⟨c₁, hholds', hcalls', hvisits⟩ := ih hrest (hholds.snoc hnew hputs) hdistinct hidlers
      exact ⟨c₁, hholds', hsilent.trans hcalls', hvisits⟩
    | stop hvisit hcalls => exact absurd (hvisit.of_idler hnone hfirst).1 (by simp)

/-- The first worker without a record is probed, and the scan finds it. -/
theorem of_worker (h : Visits settings env c (node :: later) es found? c')
    (hnone : c.registry.get? node.name = none) (hworker : settings.isWorker node = true)
    (hreached : ∀ e ∈ es, ∀ name ip answer, e.event = .probed name ip answer → answer = true) :
    found? = some node.name ∧ ∃ ip ch, node.internalIp? settings.internalIpAnnotation = some ip ∧
      events es = [.probed node.name ip true] ∧
      c.registry.Puts node.name (some { name := node.name, ip, challenge? := some ch })
        c'.registry := by
  obtain ⟨hready, ⟨ip, hip⟩, hplain⟩ := Settings.isWorker_iff.mp hworker
  cases h with
  -- The scan does not go on behind the worker: every way to do so fails.
  | pass hvisit hcalls hrest =>
    cases hvisit with
    | notReady h =>
      rw [hready] at h
      cases h
    | notDue _ h =>
      rw [hnone] at h
      cases h
    | unaddressed _ _ h =>
      rw [hip] at h
      cases h
    | exempted _ _ _ h =>
      rw [hplain] at h
      cases h
    | deferred _ _ _ _ _ hprobe =>
      rw [hcalls.unique hprobe] at hreached
      exact absurd (hreached _ List.mem_cons_self _ _ _ rfl) (by simp)
  | stop hvisit hcalls =>
    cases hvisit with
    | retried _ h =>
      rw [hnone] at h
      cases h
    | reached _ _ h _ hputs hprobe =>
      obtain rfl := Option.some.inj (hip.symm.trans h)
      rw [hcalls.unique hprobe]
      exact ⟨rfl, _, _, hip, rfl, hputs⟩

end Visits

/-! ### Scans -/

/-- A scan whose listing succeeds is the visits of this listing. -/
theorem Survey.exists_visits (h : Survey settings env c es result c')
    (hlist : (c.session.listNodes env).1 = .ok nodes) :
    ∃ e fs found? c₁, es = e :: fs ∧ e.event = .listed (.ok nodes) ∧ result = .ok found? ∧
      c₁.registry = c.registry ∧ Visits settings env c₁ nodes fs found? c' := by
  cases h with
  | failed hlist' =>
    rw [hlist] at hlist'
    cases hlist'
  | listed hlist' hevent hregistry hcalls hvisits =>
    obtain rfl := Except.ok.inj (hlist'.symm.trans hlist)
    exact ⟨_, _, _, _, rfl, hevent, rfl, hregistry, hvisits⟩

/-- A scan of settled entries and of entries that are no workers finds nobody and probes nobody. -/
theorem Survey.of_idlers (h : Survey settings env c es result c')
    (hlist : (c.session.listNodes env).1 = .ok (done ++ rest))
    (hholds : c.registry.Holds settings done) (hdistinct : ((done ++ rest).map Node.name).Nodup)
    (hidlers : ∀ node ∈ rest, settings.isWorker node = false) :
    result = .ok none ∧ requests es = [.list] ∧ c'.registry.Holds settings (done ++ rest) := by
  obtain ⟨e, fs, found?, c₁, rfl, hevent, rfl, hregistry, hvisits⟩ := h.exists_visits hlist
  rw [← hregistry] at hholds
  have hrest := hvisits.of_settled hholds.settled
  rw [← List.append_nil rest] at hrest
  obtain ⟨c₂, hholds', -, hend⟩ := hrest.of_idlers hholds hdistinct hidlers
  cases hend with
  | done => exact ⟨rfl, by simp [requests, hevent, Event.request], hholds'⟩

/-- A scan that comes to a worker without a record finds it and probes nobody else. -/
theorem Survey.of_worker (h : Survey settings env c es result c')
    (hlist : (c.session.listNodes env).1 = .ok (done ++ (passed ++ node :: later)))
    (hholds : c.registry.Holds settings done)
    (hdistinct : ((done ++ (passed ++ node :: later)).map Node.name).Nodup)
    (hidlers : ∀ node ∈ passed, settings.isWorker node = false)
    (hworker : settings.isWorker node = true)
    (hreached : ∀ e ∈ es, ∀ name ip answer, e.event = .probed name ip answer → answer = true) :
    result = .ok (some node.name) ∧ probes es = [settings.probeOf node] ∧
      ∃ (g : Registry) (ip : String) (ch : Challenge),
        g.Holds settings (done ++ passed) ∧ node.name ∉ (done ++ passed).map Node.name ∧
        node.internalIp? settings.internalIpAnnotation = some ip ∧
        g.Puts node.name (some { name := node.name, ip, challenge? := some ch }) c'.registry := by
  obtain ⟨e, fs, found?, c₁, rfl, hevent, rfl, hregistry, hvisits⟩ := h.exists_visits hlist
  rw [← hregistry] at hholds
  rw [← List.append_assoc, List.map_append, List.nodup_append] at hdistinct
  obtain ⟨hpassed, -, hfresh⟩ := hdistinct
  have hnew : node.name ∉ (done ++ passed).map Node.name :=
    fun hmem => hfresh _ hmem _ (List.mem_map_of_mem List.mem_cons_self) rfl
  -- What is settled is passed over, and what is no worker is settled on the way.
  obtain ⟨c₂, hholds', -, hend⟩ :=
    (hvisits.of_settled hholds.settled).of_idlers hholds hpassed hidlers
  -- So the visits come to the worker, and it is the only one that is probed.
  obtain ⟨rfl, ip, ch, hip, hevents, hputs⟩ := hend.of_worker (hholds'.others _ hnew) hworker
    fun e he => hreached e (List.mem_cons_of_mem _ he)
  refine ⟨rfl, ?_, c₂.registry, ip, ch, hholds', hnew, hip, hputs⟩
  simp [probes, requests, hevent, hevents, Event.request, Request.isProbe, Settings.probeOf, hip]

/-! ### Cycles -/

/-- A cycle on a listing without further workers asks for the listing, and
settles the rest of it. -/
theorem Course.of_idlers (h : Course settings env c es outcome c')
    (hlist : (c.session.listNodes env).1 = .ok (done ++ rest))
    (hholds : c.registry.Holds settings done) (hdistinct : ((done ++ rest).map Node.name).Nodup)
    (hidlers : ∀ node ∈ rest, settings.isWorker node = false) :
    requests es = [.list] ∧ c'.registry.Holds settings (done ++ rest) := by
  cases h with
  | quiet hsurvey hnobody houtcome => exact (hsurvey.of_idlers hlist hholds hdistinct hidlers).2
  | kept u hstages houtcome =>
    have hnobody := (hstages.survey.of_idlers hlist hholds hdistinct hidlers).1
    cases hnobody
  | evicted u hstages =>
    have hnobody := (hstages.survey.of_idlers hlist hholds hdistinct hidlers).1
    cases hnobody

/-- A cycle on a listing with a worker left verifies this worker. -/
theorem Course.of_worker (h : Course settings env c es outcome c')
    (hlist : (c.session.listNodes env).1 = .ok (done ++ (passed ++ node :: later)))
    (hholds : c.registry.Holds settings done)
    (hdistinct : ((done ++ (passed ++ node :: later)).map Node.name).Nodup)
    (hidlers : ∀ node ∈ passed, settings.isWorker node = false)
    (hworker : settings.isWorker node = true)
    (hreached : ∀ e ∈ es, ∀ name ip answer, e.event = .probed name ip answer → answer = true)
    (hverified : ∀ u : Trial settings env c, u.result = .ok () ∧ outcome = .verified u.node) :
    outcome = .verified node.name ∧ probes es = [settings.probeOf node] ∧
      c'.registry.Holds settings (done ++ passed ++ [node]) := by
  cases h with
  | quiet hsurvey hnobody houtcome =>
    have hfound := hsurvey.of_worker hlist hholds hdistinct hidlers hworker hreached
    exact absurd hfound.1 (hnobody _)
  | evicted u hstages => cases (hverified u).2
  | @kept es₀ es fs outcome c' u hstages houtcome =>
    obtain ⟨hok, rfl⟩ := hverified u
    obtain ⟨hnode, hprobes, g, ip, ch, hholds', hnew, hip, hputs⟩ :=
      hstages.survey.of_worker hlist hholds hdistinct hidlers hworker fun e he =>
        hreached e (List.mem_append_left _ (List.mem_append_left _ he))
    obtain hnode : u.node = node.name := Option.some.inj (Except.ok.inj hnode)
    have hafter := hstages.puts
    rw [hok, hnode] at hafter
    -- The record that the scan made is verified by the attempt.
    have hrecord : u.record = { name := node.name, ip, challenge? := some ch } :=
      Option.some.inj ((hnode ▸ u.recorded).symm.trans hputs.self)
    rw [hrecord] at hafter
    refine ⟨congrArg _ hnode, ?_, hholds'.snoc hnew ?_⟩
    · rw [probes, hstages.filter_requests, ← probes, hprobes]
      intro q hq
      cases q <;> grind [Request.isProbe, Request.agentAddress?, Request.isCryptoCall,
        Request.isMutation]
    · obtain ⟨ip', hip', hsettled⟩ := Settings.settlement?_of_worker hworker
      obtain rfl := Option.some.inj (hip.symm.trans hip')
      rw [hsettled]
      exact hputs.trans hafter

/-- On an honest cluster a trial ends with a verified node. -/
theorem Turn.Honest.verifies (h : t.Honest settings env nodes) (u : Trial settings env t.before) :
    u.result = .ok () ∧ (t.before.runCycle settings env).1 = .verified u.node := by
  refine ⟨h.succeeds u, ?_⟩
  rw [Controller.runCycle_of_ok u (h.succeeds u)]

/-! ### Runs

Each kind of move is a step of the induction, with the entries that it settles. A cycle settles
either the entries up to the next worker, or all that are left. -/

@[simp] theorem probes_append : probes (es ++ fs) = probes es ++ probes fs := by
  simp [probes]

namespace Controller.Settles

theorem nil (h : c.registry.Holds settings done) : c.Settles settings env done rest [] where
  outcomes := by simp
  probes := by simp [Controller.turns, Admission.probes, requests]
  idle := nofun
  settled hrest := by
    have hnone : rest = [] := by simpa using hrest
    rw [hnone, List.append_nil]
    exact h

theorem sleep {interval : Duration}
    (h : (c.move settings env (.sleep interval)).Settles settings env done rest ms) :
    c.Settles settings env done rest (.sleep interval :: ms) where
  outcomes := h.outcomes
  probes := by
    obtain ⟨e, hentries, hevent⟩ : ∃ e, Turn.entries settings env ⟨c, .sleep interval⟩ = [e] ∧ _ :=
      Turn.entries_of_sleep rfl
    rw [Controller.turns, List.flatMap_cons, probes_append, hentries, h.probes]
    simp [Admission.probes, requests, hevent, Event.request, Request.isProbe, Move.isCycle]
  idle := List.forall_mem_cons.mpr ⟨nofun, h.idle⟩
  settled := h.settled

/-- No worker is left, and the cycle settles the rest. -/
theorem idle_cycle (hidlers : ∀ node ∈ rest, settings.isWorker node = false)
    (houtcome : (c.runCycle settings env).1 = .idle)
    (hrequests : requests (Turn.entries settings env ⟨c, .cycle⟩) = [.list])
    (h : (c.runCycle settings env).2.Settles settings env (done ++ rest) [] ms) :
    c.Settles settings env done rest (.cycle :: ms) := by
  -- Without workers nothing is verified any more, and nothing is probed.
  have hnone : rest.filter settings.isWorker = [] := by simpa using hidlers
  refine ⟨?_, ?_, ?_, ?_⟩
  · rw [Controller.outcomes_cycle, houtcome, h.outcomes, hnone]
    simp [Move.isCycle, List.countP_cons, List.replicate_succ]
  · have hfirst : Admission.probes (Turn.entries settings env ⟨c, .cycle⟩) = [] := by
      rw [Admission.probes, hrequests]
      rfl
    have hlater : Admission.probes (((c.move settings env .cycle).turns settings env ms).flatMap
        (·.entries settings env)) = _ := h.probes
    rw [Controller.turns, List.flatMap_cons, probes_append, hfirst, hnone]
    simpa using hlater
  · exact List.forall_mem_cons.mpr ⟨fun _ => hrequests, h.idle⟩
  · intro _
    have hholds := h.settled (.inr rfl)
    rw [List.append_nil] at hholds
    exact hholds

/-- A worker is left, and the cycle verifies the first one. -/
theorem worker_cycle (hidlers : ∀ node ∈ passed, settings.isWorker node = false)
    (hworker : settings.isWorker node = true)
    (houtcome : (c.runCycle settings env).1 = .verified node.name)
    (hprobes : Admission.probes (Turn.entries settings env ⟨c, .cycle⟩) = [settings.probeOf node])
    (h : (c.runCycle settings env).2.Settles settings env (done ++ passed ++ [node]) later ms) :
    c.Settles settings env done (passed ++ node :: later) (.cycle :: ms) := by
  -- The workers that are left are this one and those behind it.
  have hworkers : (passed ++ node :: later).filter settings.isWorker =
      node :: later.filter settings.isWorker := by
    rw [List.filter_append, List.filter_eq_nil_iff.mpr (by simpa using hidlers),
      List.filter_cons_of_pos hworker, List.nil_append]
  have hcycles : (Move.cycle :: ms).countP Move.isCycle = ms.countP Move.isCycle + 1 :=
    List.countP_cons_of_pos rfl
  refine ⟨?_, ?_, ?_, ?_⟩
  · rw [Controller.outcomes_cycle, houtcome, h.outcomes, hworkers, hcycles]
    simp
  · have hlater : Admission.probes (((c.move settings env .cycle).turns settings env ms).flatMap
        (·.entries settings env)) = _ := h.probes
    rw [Controller.turns, List.flatMap_cons, probes_append, hprobes, hworkers, hcycles]
    simpa using hlater
  · refine List.forall_mem_cons.mpr ⟨?_, h.idle⟩
    intro hidle
    rw [(Turn.outcome?_eq_some_iff.mp hidle).2] at houtcome
    cases houtcome
  · -- One worker fewer and one cycle fewer.
    rintro (hmany | hnone)
    · rw [hworkers, hcycles, List.length_cons] at hmany
      have hholds := h.settled (.inl (Nat.lt_of_succ_lt_succ hmany))
      rw [List.append_assoc, List.append_assoc] at hholds
      exact hholds
    · simp at hnone

end Controller.Settles

/-- The run lemma: whatever is settled already, the rest is settled in turn. -/
theorem Controller.settles (hholds : c.registry.Holds settings done)
    (hdistinct : ((done ++ rest).map Node.name).Nodup) (hscan : ∀ m ∈ ms, m ≠ .scan)
    (hhonest : ∀ t ∈ c.turns settings env ms, t.move = .cycle →
      t.Honest settings env (done ++ rest)) :
    c.Settles settings env done rest ms := by
  induction ms generalizing c done rest with
  | nil => exact .nil hholds
  | cons m ms ih =>
    obtain ⟨hfirst, hlater⟩ := List.forall_mem_cons.mp hscan
    obtain ⟨hturn, hhonest⟩ := List.forall_mem_cons.mp hhonest
    cases m with
    | scan => exact absurd rfl hfirst
    | sleep interval =>
      have hkept : (c.move settings env (.sleep interval)).registry = c.registry := by
        rw [Controller.move_sleep]
      rw [← hkept] at hholds
      exact .sleep (ih hholds hdistinct hlater hhonest)
    | cycle =>
      have hturn := hturn rfl
      have hcourse : Course settings env c _ _ (c.runCycle settings env).2 :=
        Turn.course_of_cycle (t := ⟨c, .cycle⟩) rfl
      cases hworkers : rest.filter settings.isWorker with
      | nil =>
        -- No worker is left, and none will be found from now on.
        have hidlers : ∀ node ∈ rest, settings.isWorker node = false := by simpa using hworkers
        obtain ⟨es, hsurvey⟩ := c.scan_survey settings env
        have hidle := (c.runCycle_cases settings env).idle_iff.mpr
          (hsurvey.of_idlers hturn.listed hholds hdistinct hidlers).1
        obtain ⟨hrequests, hholds'⟩ := hcourse.of_idlers hturn.listed hholds hdistinct hidlers
        refine .idle_cycle hidlers hidle hrequests (ih hholds' ?_ hlater ?_)
        · rwa [List.append_nil]
        · rwa [List.append_nil]
      | cons node workers =>
        -- The first worker that is left ends the scan; what is in front of
        -- it is settled on the way.
        obtain ⟨passed, later, rfl, hpassed, hworker, -⟩ := List.filter_eq_cons_iff.mp hworkers
        have hidlers : ∀ node ∈ passed, settings.isWorker node = false := by simpa using hpassed
        obtain ⟨houtcome, hprobes, hholds'⟩ := hcourse.of_worker hturn.listed hholds hdistinct
          hidlers hworker hturn.reached hturn.verifies
        refine .worker_cycle hidlers hworker houtcome hprobes (ih hholds' ?_ hlater ?_)
        · simpa using hdistinct
        · intro t ht hmove
          simpa using hhonest t ht hmove

/-! ### The loop

The control loop sleeps after an idle cycle only, so its moves are known from
what its cycles come to. -/

theorem CycleOutcome.moves_verified (settings : Settings) (nodes : List Node) :
    (nodes.map fun node => CycleOutcome.verified node.name).flatMap (·.moves settings) =
      .replicate nodes.length .cycle := by
  induction nodes with
  | nil => rfl
  | cons node nodes ih =>
    rw [List.map_cons, List.flatMap_cons, ih]
    rfl

theorem CycleOutcome.moves_idle (settings : Settings) (n : Nat) :
    (List.replicate n CycleOutcome.idle).flatMap (·.moves settings) =
      (List.replicate n [Move.cycle, .sleep settings.scanInterval]).flatten := by
  rw [List.flatMap_def, List.map_replicate]
  rfl

/-- The listings and sleeps of rounds that begin with as many verified nodes as there are workers
and are idle after that. -/
theorem Controller.map_beat_loopMoves {n : Nat} {workers : List Node}
    (h : c.outcomes settings env (c.loopMoves settings env n) =
      (workers.take n).map (.verified ·.name) ++ .replicate (n - workers.length) .idle) :
    (c.loopMoves settings env n).map Move.beat =
      .replicate (min n workers.length) .list ++
        (List.replicate (n - workers.length) [.list, .sleep settings.scanInterval]).flatten := by
  rw [loopMoves_eq, h, List.flatMap_append, List.map_append, CycleOutcome.moves_verified,
    CycleOutcome.moves_idle, List.length_take, List.map_replicate, List.map_flatten,
    List.map_replicate]
  rfl

/-- An honest cluster converges. In a run of cycles and sleeps of a fresh controller on a listing
that stays the same, each cycle verifies the next worker of the listing, with one probe; when there
are no more, every cycle is idle and asks for nothing but the listing. After the first idle cycle
the registry holds the nodes that are ready and have an address, all verified. The control loop does
not sleep before that cycle, and once after each idle cycle. -/
theorem honest_cluster_converges (settings : Settings) (env : Environment ω) (world : ω)
    (nodes : List Node) (hdistinct : (nodes.map Node.name).Nodup) :
    let c := Controller.new world
    let workers := nodes.filter settings.isWorker
    (∀ ms, (∀ m ∈ ms, m ≠ .scan) →
      (∀ t ∈ c.turns settings env ms, t.move = .cycle → t.Honest settings env nodes) →
      c.Settles settings env [] nodes ms ∧
        (workers.length < ms.countP Move.isCycle →
          let g := (c.run settings env ms).registry
          g.size = (nodes.filterMap settings.settlement?).length ∧ g.verifiedCount = g.size)) ∧
    ∀ n, (∀ t ∈ c.turns settings env (c.loopMoves settings env n), t.move = .cycle →
        t.Honest settings env nodes) →
      beats (c.rounds settings env n).session.log =
        .replicate (min n workers.length) .list ++
          (List.replicate (n - workers.length) [.list, .sleep settings.scanInterval]).flatten := by
  intro c workers
  have hholds : c.registry.Holds settings [] := .empty settings
  refine ⟨?_, ?_⟩
  · intro ms hscan hhonest
    have hsettles : c.Settles settings env [] nodes ms :=
      Controller.settles hholds hdistinct hscan hhonest
    refine ⟨hsettles, ?_⟩
    intro hmany
    exact (hsettles.settled (.inl hmany)).counts hdistinct
  · intro n hhonest
    have hsettles : c.Settles settings env [] nodes _ :=
      Controller.settles hholds hdistinct Controller.loopMoves_ne_scan hhonest
    -- What the cycles of the loop come to tells where it sleeps.
    have houtcomes := hsettles.outcomes
    rw [Controller.countP_loopMoves] at houtcomes
    have hlog : c.session.log = [] := rfl
    rw [Controller.rounds_eq_run, (c.run_calls settings env _).log, hlog, List.nil_append,
      Controller.beats_run, Controller.map_beat_loopMoves houtcomes]

/-! ### A cluster with two workers -/

/-- A node of the control plane, a node that is not ready, one without an
address, and two workers. -/
def mixedNodes : List Node :=
  [{ sampleWorker with
      name := "master"
      labels := .insert .empty "node-role.kubernetes.io/master" "true" },
    { sampleWorker with name := "booting", conditions := [] },
    sampleWorker,
    { sampleWorker with name := "bare", addresses := [] },
    { sampleWorker with name := "worker-2", addresses := [⟨"InternalIP", "10.0.0.8"⟩] }]

/-- The cluster, with agents and a crypto service that do their duty: the service opens the latest
challenge, and counts the challenges. -/
def mixedEnvironment : Environment Nat where
  version _ := pure (.ok "1.0.0")
  encrypt _ _ _ drawn := ⟨.ok "c2VjcmV0", 0, drawn + 1⟩
  register _ := pure (.ok ())
  decrypt _ _ _ _ drawn :=
    ⟨.ok (Utf8.encodeChars (Challenge.ofNumber (drawn - 1)).chars), 0, drawn⟩
  challenges := .ofNumber
  listNodes := pure (.ok mixedNodes)
  apply _ _ := pure (.ok ())
  probe _ := pure true

/-- Every entry of a log has the answer of the environment. -/
theorem Environment.Answers.answered {now now' : Instant} {w w' : ω}
    (h : env.Answers now w es now' w') (he : e ∈ es) :
    ∃ now w, e.event = (env.answer e.event.request now w).value := by
  induction es generalizing now w with
  | nil => cases he
  | cons d es ih =>
    obtain ⟨hd, hes⟩ := h
    rcases List.mem_cons.mp he with rfl | he
    · exact ⟨now, w, congrArg Entry.event hd⟩
    · exact ih hes he

/-- In an environment that reaches everybody a cycle is honest if it expelled nobody. -/
theorem Turn.Honest.of_environment (hprobe : ∀ ip now w, (env.probe ip now w).value = true)
    (hlist : (t.before.session.listNodes env).1 = .ok nodes)
    (hkept : (t.before.runCycle settings env).1.expelled? = none) :
    t.Honest settings env nodes where
  listed := hlist
  reached e he name ip answer hevent := by
    obtain ⟨now, w, hanswer⟩ := (t.calls settings env).answers.answered he
    rw [hevent] at hanswer
    have hvalue : answer = (env.probe ip now w).value := by injection hanswer
    rw [hvalue, hprobe]
  succeeds := by
    obtain ⟨es, -, ⟨u, -, -, hexpelled⟩ | ⟨hok, -⟩⟩ := t.before.runCycle_changes settings env
    · rw [hkept] at hexpelled
      cases hexpelled
    · exact hok

theorem outcomes_mixedEnvironment :
    (Controller.new 0).outcomes sampleSettings mixedEnvironment
      [.cycle, .cycle, .cycle, .sleep sampleSettings.scanInterval, .cycle,
        .sleep sampleSettings.scanInterval] =
      [.verified "worker", .verified "worker-2", .idle, .idle] := rfl

/-- Two cycles verify the workers, and two more are idle, each followed by a sleep. -/
theorem mixed_cluster_converges :
    (Controller.new 0).Settles sampleSettings mixedEnvironment [] mixedNodes
        ((Controller.new 0).loopMoves sampleSettings mixedEnvironment 4) ∧
      ((Controller.new 0).rounds sampleSettings mixedEnvironment 4).registry.size = 3 ∧
      beats ((Controller.new 0).rounds sampleSettings mixedEnvironment 4).session.log =
        [.list, .list, .list, .sleep sampleSettings.scanInterval, .list,
          .sleep sampleSettings.scanInterval] := by
  have hmoves : (Controller.new 0).loopMoves sampleSettings mixedEnvironment 4 = _ :=
    Controller.loopMoves_of_outcomes outcomes_mixedEnvironment rfl
  have houtcomes := outcomes_mixedEnvironment
  rw [← hmoves] at houtcomes
  -- What the outcomes are is evaluated once; honesty of each cycle is read off them.
  have hhonest : ∀ t ∈ (Controller.new 0).turns sampleSettings mixedEnvironment
      ((Controller.new 0).loopMoves sampleSettings mixedEnvironment 4), t.move = .cycle →
      t.Honest sampleSettings mixedEnvironment mixedNodes := by
    intro t ht hmove
    have hmem := Controller.mem_outcomes_iff.mpr
      ⟨t, ht, Turn.outcome?_eq_some_iff.mpr ⟨hmove, rfl⟩⟩
    rw [houtcomes] at hmem
    refine .of_environment (fun _ _ _ => rfl) rfl ?_
    generalize (t.before.runCycle sampleSettings mixedEnvironment).1 = outcome at hmem ⊢
    revert outcome
    decide
  obtain ⟨hruns, hloop⟩ := honest_cluster_converges sampleSettings mixedEnvironment 0 mixedNodes
    (by decide)
  obtain ⟨hsettles, hcounts⟩ := hruns _ Controller.loopMoves_ne_scan hhonest
  -- Two workers, and four cycles: the last two are idle.
  have hworkers : (mixedNodes.filter sampleSettings.isWorker).length = 2 := by decide
  have hmany : (mixedNodes.filter sampleSettings.isWorker).length <
      ((Controller.new 0).loopMoves sampleSettings mixedEnvironment 4).countP Move.isCycle := by
    rw [Controller.countP_loopMoves, hworkers]
    decide
  refine ⟨hsettles, ?_, ?_⟩
  · rw [Controller.rounds_eq_run]
    rw [(hcounts hmany).1]
    rfl
  · rw [hloop 4 hhonest, hworkers]
    rfl

end NodeAdmission.Admission
