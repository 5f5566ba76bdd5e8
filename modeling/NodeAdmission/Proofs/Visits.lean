import NodeAdmission.Proofs.Scan

/-!
# Scans, visit by visit

`Visits` follows a scan along its listing, with the calls of every visit, and `Survey` puts the call
in front that asks for the listing. Whatever holds of one visit is carried through a scan by
induction on its visits. Three facts are carried through in this way:

* a record that is there keeps everything but its challenge (`Survey.present`);
* a new record is made for an entry of the listing, and it is verified just if that entry belongs to
  the control plane (`Survey.created`);
* only workers without a record are probed, and none of them twice
  (`Survey.probed`, `Survey.probed_once`).

Each of them appears three times, as a lemma on `Visit`, on `Visits` and on `Survey`; the first has
the argument, the second the induction, and the third the listing. The relation keeps the calls
apart by visit, since the calls of a scan as one list do not say which entry of the listing they
belong to when names are repeated.
-/

namespace NodeAdmission.Admission

open Cluster (Node OrchestratorError)

/-- The visits of a listing from one controller to another, with their calls and the node that the
last one found. -/
inductive Visits (settings : Settings) (env : Environment ω) :
    Controller ω → List Node → List Entry → Option String → Controller ω → Prop
  | done {c} : Visits settings env c [] [] none c
  | pass {c c₁ c' node nodes fs es found?} (hvisit : Visit settings env c node false c₁)
      (hcalls : c.session.Calls env fs c₁.session)
      (hrest : Visits settings env c₁ nodes es found? c') :
      Visits settings env c (node :: nodes) (fs ++ es) found? c'
  | stop {c c' node nodes fs} (hvisit : Visit settings env c node true c')
      (hcalls : c.session.Calls env fs c'.session) :
      Visits settings env c (node :: nodes) fs (some node.name) c'

/-- A scan of the cluster, with its calls: the listing fails, or it is visited. -/
inductive Survey (settings : Settings) (env : Environment ω) (c : Controller ω) :
    List Entry → Except AdmissionError (Option String) → Controller ω → Prop
  | failed {e cause c'} (hlist : (c.session.listNodes env).1 = .error cause)
      (hevent : e.event = .listed (.error cause)) (hregistry : c'.registry = c.registry)
      (hcalls : c.session.Calls env [e] c'.session) (hdrawn : c'.session.drawn = c.session.drawn) :
      Survey settings env c [e] (.error (.queryFailed cause)) c'
  | listed {e nodes c₁ es found? c'} (hlist : (c.session.listNodes env).1 = .ok nodes)
      (hevent : e.event = .listed (.ok nodes)) (hregistry : c₁.registry = c.registry)
      (hcalls : c.session.Calls env [e] c₁.session)
      (hvisits : Visits settings env c₁ nodes es found? c')
      (hdrawn : c₁.session.drawn = c.session.drawn) :
      Survey settings env c (e :: es) (.ok found?) c'

variable {settings : Settings} {env : Environment ω} {c c' : Controller ω} {node : Node}
  {nodes : List Node} {name : String} {r : NodeRecord} {found : Bool} {found? : Option String}
  {e : Entry} {es fs : List Entry} {result : Except AdmissionError (Option String)}

/-- The record `r` is as a scan makes it for a listed node. -/
structure NodeRecord.MadeFor (settings : Settings) (node : Node) (r : NodeRecord) : Prop where
  name : r.name = node.name
  ready : node.isReady = true
  address : node.internalIp? settings.internalIpAnnotation = some r.ip
  exempt : node.isControlPlane settings.controlPlaneLabels = r.verified

/-- The entry is the probe of a listed worker that is not in the registry `g`. -/
def Entry.ProbesNew (settings : Settings) (nodes : List Node) (g : Registry) (e : Entry) : Prop :=
  ∃ node ∈ nodes, ∃ ip reachable, e.event = .probed node.name ip reachable ∧
    node.isControlPlane settings.controlPlaneLabels = false ∧ g.get? node.name = none

/-! ### One visit -/

namespace Visit

/-- Every visit has its calls, be they none. -/
theorem exists_calls (h : Visit settings env c node found c') :
    ∃ fs, c.session.Calls env fs c'.session := by
  cases h with
  | notReady | notDue | unaddressed => exact ⟨[], .refl _⟩
  | retried hready hr hunverified hover hputs hcalls => exact ⟨[], hcalls⟩
  | exempted hready hnone hip hexempt hputs hcalls => exact ⟨[], hcalls⟩
  | reached hready hnone hip hworker hputs hcalls
  | deferred hready hnone hip hworker hputs hcalls => exact ⟨_, hcalls⟩

theorem now_le (h : Visit settings env c node found c') : c.session.now ≤ c'.session.now := by
  obtain ⟨fs, hcalls⟩ := h.exists_calls
  exact hcalls.now_le

/-- A visit concerns the record of its own node. -/
theorem other (h : Visit settings env c node found c') (hne : name ≠ node.name) :
    c'.registry.get? name = c.registry.get? name := by
  cases h with
  | notReady | notDue | unaddressed => rfl
  | retried hready hr hunverified hover hputs hcalls => exact hputs.other hne
  | exempted hready hnone hip hexempt hputs hcalls => exact hputs.other hne
  | reached hready hnone hip hworker hputs hcalls
  | deferred hready hnone hip hworker hputs hcalls => exact hputs.other hne

/-- A visit of a node that has a record changes at most its challenge. -/
theorem present (h : Visit settings env c node found c') (hr : c.registry.get? name = some r) :
    ∃ ch?, c'.registry.get? name = some { r with challenge? := ch? } := by
  by_cases hname : name = node.name
  · subst hname
    -- Of the visits to the node itself only the retry writes, and it writes the challenge.
    cases h with
    | notReady | notDue | unaddressed => exact ⟨r.challenge?, hr⟩
    | retried hready hr' hunverified hover hputs hcalls =>
      obtain rfl := Option.some.inj (hr.symm.trans hr')
      exact ⟨_, hputs.self⟩
    -- The other visits are to nodes without a record.
    | exempted hready hnone hip hexempt hputs hcalls =>
      rw [hnone] at hr
      cases hr
    | reached hready hnone hip hworker hputs hcalls
    | deferred hready hnone hip hworker hputs hcalls =>
      rw [hnone] at hr
      cases hr
  · rw [h.other hname]
    exact ⟨r.challenge?, hr⟩

/-- A record that a visit makes is made for the node that is visited. -/
theorem created (h : Visit settings env c node found c') (hnone : c.registry.get? name = none)
    (hr : c'.registry.get? name = some r) : node.name = name ∧ r.MadeFor settings node := by
  by_cases hname : name = node.name
  · subst hname
    cases h with
    | notReady | notDue | unaddressed =>
      rw [hnone] at hr
      cases hr
    | retried hready hr' hunverified hover hputs hcalls =>
      rw [hnone] at hr'
      cases hr'
    | exempted hready hnone hip hexempt hputs hcalls =>
      obtain rfl := Option.some.inj (hputs.self.symm.trans hr)
      exact ⟨rfl, rfl, hready, hip, hexempt⟩
    | reached hready hnone hip hworker hputs hcalls
    | deferred hready hnone hip hworker hputs hcalls =>
      obtain rfl := Option.some.inj (hputs.self.symm.trans hr)
      exact ⟨rfl, rfl, hready, hip, hworker⟩
  · rw [h.other hname, hnone] at hr
    cases hr

/-- The only call of a visit is the probe of a worker without a record. It decides whether the
node is found, and if not then its cooldown starts when the probe ends. -/
theorem probe (h : Visit settings env c node found c') (hcalls : c.session.Calls env fs c'.session)
    (he : e ∈ fs) : fs = [e] ∧ e.ProbesNew settings [node] c.registry ∧
      ∃ ip r, e.event = .probed node.name ip found ∧ c'.registry.get? node.name = some r ∧
        (found = false → r.nextCheckAt? = some e.ended) := by
  cases h with
  -- These visits make no call.
  | notReady | notDue | unaddressed =>
    rw [hcalls.unique (.refl _)] at he
    cases he
  | retried hready hr hunverified hover hputs hcalls' =>
    rw [hcalls.unique hcalls'] at he
    cases he
  | exempted hready hnone hip hexempt hputs hcalls' =>
    rw [hcalls.unique hcalls'] at he
    cases he
  | reached hready hnone hip hworker hputs hcalls' =>
    obtain rfl := hcalls.unique hcalls'
    obtain rfl := List.mem_singleton.mp he
    exact ⟨rfl, ⟨node, by simp, _, _, rfl, hworker, hnone⟩, _, _, rfl, hputs.self, nofun⟩
  | deferred hready hnone hip hworker hputs hcalls' =>
    obtain rfl := hcalls.unique hcalls'
    obtain rfl := List.mem_singleton.mp he
    exact ⟨rfl, ⟨node, by simp, _, _, rfl, hworker, hnone⟩, _, _, rfl, hputs.self, fun _ => rfl⟩

end Visit

/-! ### The visits of a scan

Later visits may meet what earlier ones have recorded. For most facts that does not matter, but that
no name is probed twice is due to it: the probe leaves a record behind. -/

/-- The visits of a listing, one after another, up to the one that finds a node. -/
theorem Controller.visitAll_visits (settings : Settings) (env : Environment ω) (c : Controller ω)
    (nodes : List Node) :
    ∃ es, Visits settings env c nodes es (visitAll settings env c nodes).1
      (visitAll settings env c nodes).2 := by
  induction nodes generalizing c with
  | nil => exact ⟨[], .done⟩
  | cons node nodes ih =>
    have hvisit := visit_cases settings env c node
    unfold visitAll
    generalize c.visit settings env node = outcome at hvisit ⊢
    obtain ⟨found, c₁⟩ := outcome
    obtain ⟨fs, hcalls⟩ := hvisit.exists_calls
    cases found with
    | true => exact ⟨fs, .stop hvisit hcalls⟩
    | false =>
      obtain ⟨es, hrest⟩ := ih c₁
      exact ⟨fs ++ es, .pass hvisit hcalls hrest⟩

namespace Visits

theorem calls (h : Visits settings env c nodes es found? c') :
    c.session.Calls env es c'.session := by
  induction h with
  | done => exact .refl _
  | pass hvisit hcalls hrest ih => exact hcalls.trans ih
  | stop hvisit hcalls => exact hcalls

/-- Visits keep a record up to its challenge, since each of them does. -/
theorem present (h : Visits settings env c nodes es found? c')
    (hr : c.registry.get? name = some r) :
    ∃ ch?, c'.registry.get? name = some { r with challenge? := ch? } := by
  induction h generalizing r with
  | done => exact ⟨r.challenge?, hr⟩
  | pass hvisit hcalls hrest ih =>
    obtain ⟨ch?, hr₁⟩ := hvisit.present hr
    obtain ⟨ch'?, hr'⟩ := ih hr₁
    exact ⟨ch'?, hr'⟩
  | stop hvisit hcalls => exact hvisit.present hr

/-- A record that was made on the way was made by one of the visits. -/
theorem created (h : Visits settings env c nodes es found? c')
    (hnone : c.registry.get? name = none) (hr : c'.registry.get? name = some r) :
    ∃ node ∈ nodes, node.name = name ∧ r.MadeFor settings node := by
  induction h with
  | done =>
    rw [hnone] at hr
    cases hr
  | @pass c c₁ c' node nodes fs es found? hvisit hcalls hrest ih =>
    cases hr₁ : c₁.registry.get? name with
    | none =>
      obtain ⟨m, hmem, hm⟩ := ih hr₁ hr
      exact ⟨m, List.mem_cons_of_mem _ hmem, hm⟩
    | some s =>
      -- This visit made the record, and the visits after it left the record as it is.
      obtain ⟨hname, hmade⟩ := hvisit.created hnone hr₁
      obtain ⟨ch?, hs⟩ := hrest.present hr₁
      obtain rfl := Option.some.inj (hs.symm.trans hr)
      exact ⟨node, by simp, hname, hmade.name, hmade.ready, hmade.address, hmade.exempt⟩
  | @stop c c' node nodes fs hvisit hcalls =>
    obtain ⟨hname, hmade⟩ := hvisit.created hnone hr
    exact ⟨node, by simp, hname, hmade⟩

theorem ready_of_found (h : Visits settings env c nodes es (some name) c') :
    ∃ node ∈ nodes, node.name = name ∧ node.isReady = true := by
  generalize hfound : some name = found? at h
  induction h with
  | done => cases hfound
  | pass hvisit hcalls hrest ih =>
    obtain ⟨node, hmem, hnode⟩ := ih hfound
    exact ⟨node, List.mem_cons_of_mem _ hmem, hnode⟩
  | @stop c c' node nodes fs hvisit hcalls =>
    obtain rfl := Option.some.inj hfound
    refine ⟨node, by simp, rfl, ?_⟩
    cases hvisit with
    | retried hready hr hunverified hover hputs hcalls => exact hready
    | reached hready hnone hip hworker hputs hcalls => exact hready

/-- Whoever is probed had no record when the scan began, and not only when its own turn came. -/
theorem probed (h : Visits settings env c nodes es found? c') (he : e ∈ es) :
    e.ProbesNew settings nodes c.registry := by
  induction h with
  | done => cases he
  | @pass c c₁ c' node nodes fs es found? hvisit hcalls hrest ih =>
    rcases List.mem_append.mp he with he | he
    · obtain ⟨-, ⟨m, hmem, hm⟩, -⟩ := hvisit.probe hcalls he
      exact ⟨m, List.mem_cons.mpr (.inl (List.mem_singleton.mp hmem)), hm⟩
    · obtain ⟨m, hmem, ip, reachable, hevent, hworker, hnone⟩ := ih he
      refine ⟨m, List.mem_cons_of_mem _ hmem, ip, reachable, hevent, hworker, ?_⟩
      cases hs : c.registry.get? m.name with
      | none => rfl
      | some s =>
        -- A record that was there before this visit is still there after it.
        obtain ⟨ch?, hs₁⟩ := hvisit.present hs
        rw [hnone] at hs₁
        cases hs₁
  | stop hvisit hcalls =>
    obtain ⟨-, ⟨m, hmem, hm⟩, -⟩ := hvisit.probe hcalls he
    exact ⟨m, List.mem_cons.mpr (.inl (List.mem_singleton.mp hmem)), hm⟩

/-- No name is probed twice. -/
theorem probed_once (h : Visits settings env c nodes es found? c') :
    es.Pairwise fun e f => e.event.request.node? ≠ f.event.request.node? := by
  induction h with
  | done => exact .nil
  | @pass c c₁ c' node nodes fs es found? hvisit hcalls hrest ih =>
    refine List.pairwise_append.mpr ⟨?_, ih, ?_⟩
    · cases fs with
      | nil => exact .nil
      | cons e fs =>
        rw [(hvisit.probe hcalls List.mem_cons_self).1]
        exact List.pairwise_singleton _ _
    · -- A name that was probed has a record by then, and whoever is probed later has none.
      intro e he f hf heq
      obtain ⟨-, -, ip, r, hevent, hr, -⟩ := hvisit.probe hcalls he
      obtain ⟨m, -, ip', reachable, hevent', -, hnone⟩ := hrest.probed hf
      rw [hevent, hevent'] at heq
      have hname : node.name = m.name := Option.some.inj heq
      rw [hname, hnone] at hr
      cases hr
  | @stop c c' node nodes fs hvisit hcalls =>
    cases fs with
    | nil => exact .nil
    | cons e fs =>
      rw [(hvisit.probe hcalls List.mem_cons_self).1]
      exact List.pairwise_singleton _ _

end Visits

/-! ### The scan of the cluster -/

/-- Every scan of the cluster is a survey. -/
theorem Controller.scan_survey (settings : Settings) (env : Environment ω) (c : Controller ω) :
    ∃ es, Survey settings env c es (c.scan settings env).1 (c.scan settings env).2 := by
  have hcalls := c.session.calls_listNodes env
  have hdrawn : (c.session.listNodes env).2.drawn = c.session.drawn := rfl
  cases hlist : c.session.listNodes env with
  | mk result s =>
    rw [hlist] at hcalls hdrawn
    unfold Controller.scan
    rw [hlist]
    cases result with
    | error cause => exact ⟨_, .failed (by rw [hlist]) rfl rfl hcalls hdrawn⟩
    | ok nodes =>
      -- The listing takes time and nothing else.
      have hregistry : ({ c with session := s } : Controller ω).registry = c.registry := rfl
      obtain ⟨es, hvisits⟩ := visitAll_visits settings env { c with session := s } nodes
      exact ⟨_, .listed (by rw [hlist]) rfl hregistry hcalls hvisits hdrawn⟩

namespace Survey

theorem calls (h : Survey settings env c es result c') : c.session.Calls env es c'.session := by
  cases h with
  | failed hlist hevent hregistry hcalls => exact hcalls
  | listed hlist hevent hregistry hcalls hvisits => exact hcalls.trans hvisits.calls

theorem of_calls (hcalls : c.session.Calls env es (c.scan settings env).2.session) :
    Survey settings env c es (c.scan settings env).1 (c.scan settings env).2 := by
  obtain ⟨fs, h⟩ := c.scan_survey settings env
  rw [hcalls.unique h.calls]
  exact h

theorem present (h : Survey settings env c es result c') (hr : c.registry.get? name = some r) :
    ∃ ch?, c'.registry.get? name = some { r with challenge? := ch? } := by
  cases h with
  | failed hlist hevent hregistry hcalls => exact ⟨r.challenge?, hregistry ▸ hr⟩
  | listed hlist hevent hregistry hcalls hvisits => exact hvisits.present (hregistry ▸ hr)

/-- A record that a scan makes is made for a node that is listed. -/
theorem created (h : Survey settings env c es result c') (hnone : c.registry.get? name = none)
    (hr : c'.registry.get? name = some r) :
    ∃ nodes, (c.session.listNodes env).1 = .ok nodes ∧
      ∃ node ∈ nodes, node.name = name ∧ r.MadeFor settings node := by
  cases h with
  | failed hlist hevent hregistry hcalls =>
    rw [hregistry, hnone] at hr
    cases hr
  | listed hlist hevent hregistry hcalls hvisits =>
    exact ⟨_, hlist, hvisits.created (hregistry ▸ hnone) hr⟩

/-- A node that a scan finds is listed and ready. -/
theorem ready_of_found (h : Survey settings env c es (.ok (some name)) c') :
    ∃ nodes, (c.session.listNodes env).1 = .ok nodes ∧
      ∃ node ∈ nodes, node.name = name ∧ node.isReady = true := by
  cases h with
  | listed hlist hevent hregistry hcalls hvisits => exact ⟨_, hlist, hvisits.ready_of_found⟩

/-- A call of a scan asks for the listing or probes a worker that is new. -/
theorem mem_cases (h : Survey settings env c es result c') (he : e ∈ es) :
    (∃ listing, e.event = .listed listing) ∨
      ∃ nodes, (c.session.listNodes env).1 = .ok nodes ∧ e.ProbesNew settings nodes c.registry := by
  cases h with
  | failed hlist hevent hregistry hcalls =>
    rw [List.mem_singleton.mp he]
    exact .inl ⟨_, hevent⟩
  | listed hlist hevent hregistry hcalls hvisits =>
    rcases List.mem_cons.mp he with rfl | he
    · exact .inl ⟨_, hevent⟩
    · exact .inr ⟨_, hlist, hregistry ▸ hvisits.probed he⟩

theorem probed (h : Survey settings env c es result c') (he : e ∈ es)
    (hnode : e.event.request.node? = some name) :
    ∃ nodes, (c.session.listNodes env).1 = .ok nodes ∧ e.ProbesNew settings nodes c.registry := by
  rcases h.mem_cases he with ⟨listing, hevent⟩ | hprobes
  · rw [hevent] at hnode
    cases hnode
  · exact hprobes

theorem no_agent (h : Survey settings env c es result c') (he : e ∈ es) :
    e.event.request.agentAddress? = none := by
  rcases h.mem_cases he with ⟨listing, hevent⟩ | ⟨nodes, -, node, -, ip, reachable, hevent, -⟩
  · rw [hevent]
    rfl
  · rw [hevent]
    rfl

theorem probed_once (h : Survey settings env c es result c') :
    es.Pairwise fun e f => e.event.request.node? = some name →
      f.event.request.node? ≠ some name := by
  cases h with
  | failed hlist hevent hregistry hcalls => exact List.pairwise_singleton _ _
  | @listed e nodes c₁ es found? c' hlist hevent hregistry hcalls hvisits =>
    refine List.pairwise_cons.mpr ⟨?_, ?_⟩
    · intro f hf hname
      rw [hevent] at hname
      cases hname
    · exact hvisits.probed_once.imp fun hne he hf => hne (he.trans hf.symm)

end Survey

end NodeAdmission.Admission
