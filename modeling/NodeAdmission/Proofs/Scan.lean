import NodeAdmission.Proofs.Records

/-!
# Scans

What a scan does to the registry and whom it calls.

* `Visit` lists what the visit of one node can come to, with the reason in the hypotheses of each
  constructor, and `Controller.visit_cases` is the only place where visits are taken apart.
* `Scanned` is what a scan of a listing leaves: it calls nobody but the probe, leaves alone what was
  recorded of other nodes than the one that it finds, and settles every node that it adds.
* `Controller.visitAll_scanned` is one induction over the listing, for a scan is a sequence of
  visits of which only the last can be the one that finds a node. `Scanned.skip`, `Scanned.settle`
  and `Scanned.find` are its steps.
* `Scan`, `Controller.scan_cases` put the call in front that asks for the listing.

Listings may repeat names. A second entry of a name meets the record that the first one left, which
is why `Scanned.added` speaks of names and records and not of entries.
-/

namespace NodeAdmission.Admission

open Cluster (Node OrchestratorError)

/-! ### One visit

The visits come in seven kinds. Two of them find the node, and two of them probe it; the one that
does both is the first visit of a worker that is reached. -/

/-- What a visit can come to: whether the node is the one to be verified, and the controller
afterwards. -/
inductive Visit (settings : Settings) (env : Environment ω) (c : Controller ω) (node : Node) :
    Bool → Controller ω → Prop
  | notReady (hready : node.isReady = false) : Visit settings env c node false c
  | notDue {r} (hready : node.isReady = true) (hr : c.registry.get? node.name = some r)
      (hwait : r.verified = true ∨
        r.cooldownElapsed c.session.now settings.retryCooldown = false) :
      Visit settings env c node false c
  | unaddressed (hready : node.isReady = true) (hr : c.registry.get? node.name = none)
      (hip : node.internalIp? settings.internalIpAnnotation = none) :
      Visit settings env c node false c
  | retried {r c'} (hready : node.isReady = true) (hr : c.registry.get? node.name = some r)
      (hunverified : r.verified = false)
      (hover : r.cooldownElapsed c.session.now settings.retryCooldown = true)
      (hputs : c.registry.Puts node.name
        (some (r.beginAttempt (env.challenges c.session.drawn))) c'.registry)
      (hcalls : c.session.Calls env [] c'.session)
      (hdrawn : c'.session.drawn =
        if r.challenge? = none then c.session.drawn + 1 else c.session.drawn) :
      Visit settings env c node true c'
  | exempted {ip c'} (hready : node.isReady = true) (hr : c.registry.get? node.name = none)
      (hip : node.internalIp? settings.internalIpAnnotation = some ip)
      (hexempt : node.isControlPlane settings.controlPlaneLabels = true)
      (hputs : c.registry.Puts node.name
        (some { name := node.name, ip, verified := true }) c'.registry)
      (hcalls : c.session.Calls env [] c'.session)
      (hdrawn : c'.session.drawn = c.session.drawn) :
      Visit settings env c node false c'
  | reached {ip c'} (hready : node.isReady = true) (hr : c.registry.get? node.name = none)
      (hip : node.internalIp? settings.internalIpAnnotation = some ip)
      (hworker : node.isControlPlane settings.controlPlaneLabels = false)
      (hputs : c.registry.Puts node.name
        (some { name := node.name, ip, challenge? := some (env.challenges c.session.drawn) })
        c'.registry)
      (hcalls : c.session.Calls env
        [⟨c.session.now, c'.session.now, .probed node.name ip true⟩] c'.session)
      (hdrawn : c'.session.drawn = c.session.drawn + 1) :
      Visit settings env c node true c'
  | deferred {ip c'} (hready : node.isReady = true) (hr : c.registry.get? node.name = none)
      (hip : node.internalIp? settings.internalIpAnnotation = some ip)
      (hworker : node.isControlPlane settings.controlPlaneLabels = false)
      (hputs : c.registry.Puts node.name
        (some { name := node.name, ip, nextCheckAt? := some c'.session.now }) c'.registry)
      (hcalls : c.session.Calls env
        [⟨c.session.now, c'.session.now, .probed node.name ip false⟩] c'.session)
      (hdrawn : c'.session.drawn = c.session.drawn + 1) :
      Visit settings env c node false c'

namespace Controller

variable {settings : Settings} {env : Environment ω} {c c' : Controller ω} {node : Node}
  {nodes : List Node} {name : String} {r : NodeRecord}

/-- The visit of a node that has a record: it is passed over, or its attempt begins again. -/
theorem visitKnown_cases (hready : node.isReady = true) (hr : c.registry.get? node.name = some r) :
    Visit settings env c node (c.visitKnown settings env node.name r).1
      (c.visitKnown settings env node.name r).2 := by
  unfold visitKnown
  split
  · next hwait => exact .notDue hready hr (by simpa using hwait)
  · next hdue =>
    have hdue : r.verified = false ∧
        r.cooldownElapsed c.session.now settings.retryCooldown = true := by simpa using hdue
    obtain ⟨hputs, hcalls⟩ := beginAttempt_puts env hr
    exact .retried hready hr hdue.1 hdue.2 hputs hcalls (beginAttempt_drawn env hr)

/-- The visit of a node without a record: it is exempt, or it is probed and found,
or its cooldown starts. -/
theorem visitNew_cases (hready : node.isReady = true) (hr : c.registry.get? node.name = none)
    {ip : String} (hip : node.internalIp? settings.internalIpAnnotation = some ip) :
    Visit settings env c node (c.visitNew settings env node ip).1
      (c.visitNew settings env node ip).2 := by
  have henroll := Registry.puts_enroll hr ip
  unfold visitNew
  split
  · next hexempt =>
    exact .exempted hready hr hip hexempt
      (henroll.trans (Registry.puts_modify henroll.self _)) (.refl _) rfl
  · next hworker =>
    -- The challenge is drawn before the probe, whatever the probe says.
    dsimp only
    obtain ⟨hbegun, hdraw⟩ := beginAttempt_puts env
      (c := { c with registry := c.registry.enroll node.name ip }) henroll.self
    have hdrawn := beginAttempt_drawn env
      (c := { c with registry := c.registry.enroll node.name ip }) henroll.self
    generalize beginAttempt env { c with registry := c.registry.enroll node.name ip } node.name = c₁
      at hbegun hdraw hdrawn ⊢
    -- Two changes of the same name count as one, and drawing takes no time.
    -- Two changes of the same name count as one, and drawing takes no time.
    have hputs := henroll.trans hbegun
    have hprobe := hdraw.trans (c₁.session.calls_probe env node.name ip)
    have hnow : c₁.session.now = c.session.now := hdraw.answers.1
    rw [hnow] at hprobe
    have hkept : (c₁.session.probe env node.name ip).2.drawn = c₁.session.drawn := rfl
    rw [hdrawn] at hkept
    unfold probeNode
    generalize c₁.session.probe env node.name ip = reply at hprobe hkept ⊢
    -- The probe gives up, or it reaches the node.
    -- The probe gives up, or it reaches the node.
    obtain ⟨_ | _, s⟩ := reply
    · show Visit settings env c node false
        { registry := c₁.registry.modify node.name (·.abandonAttempt s.now), session := s }
      exact .deferred hready hr hip (by simpa using hworker)
        (hputs.trans (Registry.puts_modify hputs.self _)) hprobe hkept
    · show Visit settings env c node true { c₁ with session := s }
      exact .reached hready hr hip (by simpa using hworker) hputs hprobe hkept

theorem visit_cases (settings : Settings) (env : Environment ω) (c : Controller ω) (node : Node) :
    Visit settings env c node (c.visit settings env node).1 (c.visit settings env node).2 := by
  unfold visit
  cases hready : node.isReady with
  | false => exact .notReady hready
  | true =>
    simp only [Bool.not_true, Bool.false_eq_true, if_false]
    cases hr : c.registry.get? node.name with
    | some r => exact visitKnown_cases hready hr
    | none =>
      cases hip : node.internalIp? settings.internalIpAnnotation with
      | none => exact .unaddressed hready hr hip
      | some ip => exact visitNew_cases hready hr hip

end Controller

/-! ### The records after a scan

A scan is put together from its last visit back to its first. The steps are those kinds of visits
which the registry can tell apart. -/

/-- The record of a node that a scan adds without finding it: the node is exempt, or it could not be
reached and its cooldown started when the probe gave up. -/
inductive Settled (settings : Settings) (nodes : List Node) (es : List Entry) (name : String) :
    NodeRecord → Prop
  | exempt {node ip} (hmem : node ∈ nodes) (hname : node.name = name) (hready : node.isReady = true)
      (hip : node.internalIp? settings.internalIpAnnotation = some ip)
      (hexempt : node.isControlPlane settings.controlPlaneLabels = true) :
      Settled settings nodes es name { name, ip, verified := true }
  | deferred {e ip} (hmem : e ∈ es) (hevent : e.event = .probed name ip false) :
      Settled settings nodes es name { name, ip, nextCheckAt? := some e.ended }

/-- What a scan of a listing does to a registry, with the calls `es` and the node that it finds. -/
structure Scanned (settings : Settings) (nodes : List Node) (g : Registry) (es : List Entry)
    (found? : Option String) (g' : Registry) : Prop where
  probes : ∀ e ∈ es, ∃ node ip reachable, e.event = .probed node ip reachable
  kept : ∀ name r, found? ≠ some name → g.get? name = some r → g'.get? name = some r
  added : ∀ name r, found? ≠ some name → g.get? name = none → g'.get? name = some r →
    Settled settings nodes es name r
  pending : ∀ name, found? = some name → ∃ r ch, g'.get? name = some r ∧ r.verified = false ∧
    r.challenge? = some ch ∧ ∀ r₀, g.get? name = some r₀ → r₀.verified = false ∧ r₀.ip = r.ip

/-- A record that is settled by some calls on some listing is settled by more of them. -/
theorem Settled.mono {settings : Settings} {nodes nodes' : List Node} {es es' : List Entry}
    {name : String} {r : NodeRecord} (h : Settled settings nodes es name r) (hn : nodes ⊆ nodes')
    (he : es ⊆ es') : Settled settings nodes' es' name r := by
  cases h with
  | exempt hmem hname hready hip hexempt => exact .exempt (hn hmem) hname hready hip hexempt
  | deferred hmem hevent => exact .deferred (he hmem) hevent

namespace Scanned

variable {settings : Settings} {node : Node} {nodes : List Node} {g g₁ g' : Registry}
  {es fs : List Entry} {found? : Option String} {r : NodeRecord}

theorem nil : Scanned settings [] g [] none g where
  probes := by simp
  kept _ _ _ h := h
  added _ _ _ hnone hsome := by rw [hnone] at hsome; cases hsome
  pending _ h := by cases h

/-- A visit that changes nothing. -/
theorem skip (h : Scanned settings nodes g es found? g') :
    Scanned settings (node :: nodes) g es found? g' where
  probes := h.probes
  kept := h.kept
  added name r hf hnone hsome :=
    (h.added name r hf hnone hsome).mono (List.subset_cons_self _ _) (List.Subset.refl _)
  pending := h.pending

/-- A visit that adds a record and settles it. -/
theorem settle (hnew : g.get? node.name = none) (hputs : g.Puts node.name (some r) g₁)
    (hprobes : ∀ e ∈ fs, ∃ node ip reachable, e.event = .probed node ip reachable)
    (hsettled : Settled settings (node :: nodes) fs node.name r)
    (h : Scanned settings nodes g₁ es found? g') :
    Scanned settings (node :: nodes) g (fs ++ es) found? g' where
  probes := List.forall_mem_append.mpr ⟨hprobes, h.probes⟩
  kept name s hf hs := by
    have hne : name ≠ node.name := by
      rintro rfl
      rw [hnew] at hs
      cases hs
    exact h.kept name s hf (by rw [hputs.other hne, hs])
  added name s hf hnone hsome := by
    by_cases hname : name = node.name
    · -- A second entry of the same name would only see a record that is settled.
      subst hname
      have hr := h.kept node.name r hf hputs.self
      rw [hr, Option.some.injEq] at hsome
      subst hsome
      exact hsettled.mono (List.Subset.refl _) (List.subset_append_left _ _)
    · exact (h.added name s hf (by rw [hputs.other hname, hnone]) hsome).mono
        (List.subset_cons_self _ _) (List.subset_append_right _ _)
  pending name hf := by
    obtain ⟨s, ch, hs, hv, hch, hold⟩ := h.pending name hf
    refine ⟨s, ch, hs, hv, hch, fun r₀ hr₀ => hold r₀ ?_⟩
    have hne : name ≠ node.name := by
      rintro rfl
      rw [hnew] at hr₀
      cases hr₀
    rw [hputs.other hne, hr₀]

/-- The visit that finds a node. -/
theorem find {ch : Challenge} (hputs : g.Puts node.name (some r) g')
    (hprobes : ∀ e ∈ es, ∃ node ip reachable, e.event = .probed node ip reachable)
    (hv : r.verified = false) (hch : r.challenge? = some ch)
    (hold : ∀ r₀, g.get? node.name = some r₀ → r₀.verified = false ∧ r₀.ip = r.ip) :
    Scanned settings (node :: nodes) g es (some node.name) g' where
  probes := hprobes
  kept name s hf hs := by
    rw [hputs.other (fun h => hf (by rw [h])), hs]
  added name s hf hnone hsome := by
    rw [hputs.other (fun h => hf (by rw [h])), hnone] at hsome
    cases hsome
  pending name hf := by
    obtain rfl := Option.some.inj hf
    exact ⟨r, ch, hputs.self, hv, hch, hold⟩

end Scanned

namespace Controller

variable {settings : Settings} {env : Environment ω} {c c' : Controller ω} {node : Node}
  {nodes : List Node} {name : String} {r : NodeRecord}

/-- The visits of a listing make up a scan of it. -/
theorem visitAll_scanned (settings : Settings) (env : Environment ω) (c : Controller ω)
    (nodes : List Node) :
    ∃ es, c.session.Calls env es (visitAll settings env c nodes).2.session ∧
      Scanned settings nodes c.registry es (visitAll settings env c nodes).1
        (visitAll settings env c nodes).2.registry := by
  induction nodes generalizing c with
  | nil => exact ⟨[], .refl _, .nil⟩
  | cons node nodes ih =>
    have hvisit := visit_cases settings env c node
    unfold visitAll
    generalize c.visit settings env node = outcome at hvisit ⊢
    obtain ⟨found, c₁⟩ := outcome
    obtain ⟨es, hes, hscan⟩ := ih c₁
    -- The visits that go on take the scan of the rest with them, which begins where they end.
    -- The visits that go on take the scan of the rest with them, which begins where they end.
    cases hvisit with
    | notReady | notDue | unaddressed => exact ⟨es, hes, hscan.skip⟩
    | exempted hready hr hip hexempt hputs hcalls =>
      exact ⟨_, hcalls.trans hes, .settle hr hputs (by simp)
        (.exempt List.mem_cons_self rfl hready hip hexempt) hscan⟩
    | deferred hready hr hip hworker hputs hcalls =>
      exact ⟨_, hcalls.trans hes, .settle hr hputs (by simp)
        (.deferred List.mem_cons_self rfl) hscan⟩
    -- The last two visits find the node, so the rest of the listing is not looked at.
    | retried hready hr hunverified hover hputs hcalls =>
      refine ⟨_, hcalls, .find hputs (by simp) hunverified rfl fun r₀ hr₀ => ?_⟩
      obtain rfl := Option.some.inj (hr.symm.trans hr₀)
      exact ⟨hunverified, rfl⟩
    | reached hready hr hip hworker hputs hcalls =>
      refine ⟨_, hcalls, .find hputs (by simp) rfl rfl fun r₀ hr₀ => ?_⟩
      rw [hr] at hr₀
      cases hr₀

end Controller

/-! ### The scan of the cluster -/

/-- What a scan of the cluster can come to, with all its calls. -/
inductive Scan (settings : Settings) (env : Environment ω) (c : Controller ω) :
    List Entry → Except AdmissionError (Option String) → Registry → Prop
  | failed {e cause} (hlist : (c.session.listNodes env).1 = .error cause)
      (hevent : e.event = .listed (.error cause)) :
      Scan settings env c [e] (.error (.queryFailed cause)) c.registry
  | listed {e nodes es found? g'} (hlist : (c.session.listNodes env).1 = .ok nodes)
      (hevent : e.event = .listed (.ok nodes))
      (hscanned : Scanned settings nodes c.registry es found? g') :
      Scan settings env c (e :: es) (.ok found?) g'

theorem Controller.scan_cases (settings : Settings) (env : Environment ω) (c : Controller ω) :
    ∃ es, c.session.Calls env es (c.scan settings env).2.session ∧
      Scan settings env c es (c.scan settings env).1 (c.scan settings env).2.registry := by
  have hcalls := c.session.calls_listNodes env
  cases hlist : c.session.listNodes env with
  | mk result s =>
    rw [hlist] at hcalls
    unfold Controller.scan
    rw [hlist]
    cases result with
    | error cause => exact ⟨_, hcalls, .failed (by rw [hlist]) rfl⟩
    | ok nodes =>
      obtain ⟨es, hes, hscanned⟩ := visitAll_scanned settings env { c with session := s } nodes
      exact ⟨_, hcalls.trans hes, .listed (by rw [hlist]) rfl hscanned⟩

namespace Scan

variable {settings : Settings} {env : Environment ω} {c : Controller ω} {es : List Entry}
  {result : Except AdmissionError (Option String)} {g' : Registry} {name : String} {r : NodeRecord}

/-- A scan calls neither agents nor the crypto service and changes nothing in the cluster. -/
theorem silent (h : Scan settings env c es result g') :
    ∀ e ∈ events es, e.request.isMutation = false ∧ e.request.agentAddress? = none ∧
      e.request.isCryptoCall = false := by
  cases h with
  | failed hlist hevent =>
    simp [hevent, Event.request, Request.isMutation, Request.agentAddress?, Request.isCryptoCall]
  | listed hlist hevent hscanned =>
    rw [events_cons, hevent, List.forall_mem_cons]
    refine ⟨⟨rfl, rfl, rfl⟩, ?_⟩
    intro e he
    obtain ⟨entry, hmem, rfl⟩ := List.mem_map.mp he
    -- Behind the listing there are probes only, and a probe is none of the three.
    -- Behind the listing there are probes only, and a probe is none of the three.
    obtain ⟨node, ip, reachable, hprobed⟩ := hscanned.probes entry hmem
    rw [hprobed]
    exact ⟨rfl, rfl, rfl⟩

/-- The same as lists: none of the three kinds of calls occurs. -/
theorem no_calls (h : Scan settings env c es result g') :
    agentCalls es = [] ∧ cryptoCalls es = [] ∧ mutations es = [] := by
  have hsilent := h.silent
  refine ⟨?_, ?_, ?_⟩
  · refine List.filter_eq_nil_iff.mpr fun e he => ?_
    simp [(hsilent e he).2.1]
  · refine List.filter_eq_nil_iff.mpr fun e he => ?_
    simp [(hsilent e he).2.2]
  · refine List.filter_eq_nil_iff.mpr fun e he => ?_
    simp [(hsilent e he).1]

/-- A scan fails just if the listing does, and then it does nothing else. -/
theorem failed_iff (h : Scan settings env c es result g') :
    (∃ e, result = .error e) ↔ ∃ cause, (c.session.listNodes env).1 = .error cause := by
  cases h with
  | failed hlist hevent => simp [hlist]
  | listed hlist hevent hscanned => simp [hlist]

theorem of_error {e : AdmissionError} (h : Scan settings env c es (.error e) g') :
    g' = c.registry ∧ (events es).map Event.request = [.list] := by
  cases h with
  | failed hlist hevent => exact ⟨rfl, by simp [hevent, Event.request]⟩

/-- A scan keeps every record but that of the node that it finds. -/
theorem kept (h : Scan settings env c es result g') (hne : result ≠ .ok (some name))
    (hr : c.registry.get? name = some r) : g'.get? name = some r := by
  cases h with
  | failed hlist hevent => exact hr
  | listed hlist hevent hscanned => exact hscanned.kept name r (fun hf => hne (by rw [hf])) hr

theorem added (h : Scan settings env c es result g') (hne : result ≠ .ok (some name))
    (hnone : c.registry.get? name = none) (hr : g'.get? name = some r) :
    ∃ nodes, (c.session.listNodes env).1 = .ok nodes ∧ Settled settings nodes es name r := by
  cases h with
  | failed hlist hevent =>
    rw [hnone] at hr
    cases hr
  | @listed e nodes es _ _ hlist hevent hscanned =>
    have hsettled := hscanned.added name r (fun hf => hne (by rw [hf])) hnone hr
    exact ⟨nodes, hlist, hsettled.mono (List.Subset.refl _) (List.subset_cons_self _ _)⟩

end Scan

end NodeAdmission.Admission
