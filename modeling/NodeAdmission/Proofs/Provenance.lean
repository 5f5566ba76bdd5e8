import Mathlib.Data.List.Induction
import NodeAdmission.Proofs.Run

/-!
# Where records come from

No node is admitted by mistake: a record that is verified at the end of a run was made for a node of
the control plane, or the node has proved itself since its record was made. A visit makes records
and a cycle verifies them, and nothing else can.

* `Visit.origin`, `Controller.visitAll_origin`, `Controller.scan_origin` — a record after a visit, a
  listing or a scan was there before with the same address and the same standing, or it was made on
  the way, and then it is verified only for a node of the control plane.
* `Turn.origin` — the step lemma. A record that is verified after a turn was verified before it, or
  was made for an exempt node, or belongs to a node that proved itself in this very turn.
* `Provenance.snoc`, `Controller.run_provenance` — the run lemma, by induction from the end of the
  run, so that the turn that is added is the last one.
* `verified_provenance` — the main statement. The run falls into the turns before the record was
  made, that turn, and those since then, in which the record was never missing and never evicted.

`Turn.Proves` spells out all four calls of the exchange with the pending challenge and the
body that the agent answered. That one of them succeeded would say less: the crypto service
decrypts whatever it is given.
-/

namespace NodeAdmission.Admission

open Cluster (Node)

namespace Controller

/-- The scan visits the listed `node` and makes a record for it, which it did not have before. -/
def EnrollsFrom (settings : Settings) (env : Environment ω) (c : Controller ω) (nodes : List Node)
    (node : Node) : Prop :=
  ∃ earlier later, nodes = earlier ++ node :: later ∧ (visitAll settings env c earlier).1 = none ∧
    (visitAll settings env c earlier).2.registry.get? node.name = none ∧
    ((visitAll settings env c earlier).2.visit settings env node).2.registry.get? node.name ≠ none

/-- A scan of the cluster makes a record for a node that it lists. -/
def Enrolls (settings : Settings) (env : Environment ω) (c : Controller ω) (node : Node) : Prop :=
  ∃ nodes, (c.session.listNodes env).1 = .ok nodes ∧
    EnrollsFrom settings env { c with session := (c.session.listNodes env).2 } nodes node

end Controller

namespace Turn

/-- A turn in which a record is made for a node that was listed. -/
def Enrolls (settings : Settings) (env : Environment ω) (t : Turn ω) (node : Node) : Prop :=
  (t.move = .scan ∨ t.move = .cycle) ∧ t.before.Enrolls settings env node

/-- A turn in which the record of a node is forgotten. -/
def Evicts (settings : Settings) (env : Environment ω) (t : Turn ω) (name : String) : Prop :=
  t.move = .cycle ∧ (t.before.runCycle settings env).1 = .remediated name

/-- A turn in which a node proves itself: its agent at `ip` answers, it encrypts the challenge
that is pending on the record, and the crypto service decrypts just this answer to the challenge.
-/
def Proves (settings : Settings) (env : Environment ω) (t : Turn ω) (name ip : String) : Prop :=
  t.move = .cycle ∧ ∃ (trial : Trial settings env t.before) (earlier : List Event)
    (version body : String), trial.node = name ∧ trial.record.ip = ip ∧
    events (t.entries settings env) = earlier ++ [.asked trial.record.name ip (.ok version),
      .challenged trial.record.name ip trial.challenge.text (.ok body),
      .registered settings.identity.clientName (.ok ()),
      .decrypted settings.identity.clientName settings.identity.keyName body
        (.ok (Utf8.encode trial.challenge.text))]

end Turn

variable {settings : Settings} {env : Environment ω} {c c' : Controller ω} {name : String}
  {r : NodeRecord}

/-! ### One visit, one scan

Where a record comes from is first told of one visit. The listing is split at the visit that made
the record, and what was in front of it is what the statement calls the state before. -/

/-- A record after a visit was there before, or it was made by the visit. A visit verifies nodes
of the control plane only. -/
theorem Visit.origin {node : Node} {found : Bool} (h : Visit settings env c node found c')
    (hr : c'.registry.get? name = some r) :
    (∃ r₀, c.registry.get? name = some r₀ ∧ r₀.ip = r.ip ∧ r₀.verified = r.verified) ∨
      c.registry.get? name = none ∧ node.name = name ∧
        (r.verified = true → node.isControlPlane settings.controlPlaneLabels = true) := by
  -- A record of another name is the one that was there.
  have hother : ∀ {r?}, c.registry.Puts node.name r? c'.registry → node.name ≠ name →
      ∃ r₀, c.registry.get? name = some r₀ ∧ r₀.ip = r.ip ∧ r₀.verified = r.verified :=
    fun hputs hne => ⟨r, by rw [← hputs.other hne.symm, hr], rfl, rfl⟩
  cases h with
  | notReady | notDue | unaddressed => exact .inl ⟨r, hr, rfl, rfl⟩
  | @retried s _ hready hs hunverified hover hputs hcalls =>
    by_cases hname : node.name = name
    · subst hname
      obtain rfl := Option.some.inj (hputs.self.symm.trans hr)
      exact .inl ⟨s, hs, rfl, rfl⟩
    · exact .inl (hother hputs hname)
  | exempted hready hnone hip hexempt hputs hcalls =>
    by_cases hname : node.name = name
    · exact .inr ⟨hname ▸ hnone, hname, fun _ => hexempt⟩
    · exact .inl (hother hputs hname)
  | reached hready hnone hip hworker hputs hcalls
  | deferred hready hnone hip hworker hputs hcalls =>
    by_cases hname : node.name = name
    · subst hname
      obtain rfl := Option.some.inj (hputs.self.symm.trans hr)
      exact .inr ⟨hnone, rfl, nofun⟩
    · exact .inl (hother hputs hname)

namespace Controller

/-- A visit that finds its node is the last of its scan. -/
theorem visitAll_cons_of_found {node : Node} (nodes : List Node)
    (h : (c.visit settings env node).1 = true) :
    visitAll settings env c (node :: nodes) = (some node.name, (c.visit settings env node).2) := by
  unfold visitAll
  generalize c.visit settings env node = outcome at h ⊢
  obtain ⟨found, c'⟩ := outcome
  obtain rfl : found = true := h
  rfl

/-- A visit that does not find its node hands over to the next one. -/
theorem visitAll_cons_of_not_found {node : Node} (nodes : List Node)
    (h : (c.visit settings env node).1 = false) :
    visitAll settings env c (node :: nodes) =
      visitAll settings env (c.visit settings env node).2 nodes := by
  rw [visitAll]
  generalize c.visit settings env node = outcome at h ⊢
  obtain ⟨found, c'⟩ := outcome
  obtain rfl : found = false := h
  rfl

/-- The visits of a listing go on behind a part of it that found nobody. -/
theorem visitAll_append {earlier : List Node} (later : List Node)
    (h : (visitAll settings env c earlier).1 = none) :
    visitAll settings env c (earlier ++ later) =
      visitAll settings env (visitAll settings env c earlier).2 later := by
  induction earlier generalizing c with
  | nil => rfl
  | cons node earlier ih =>
    cases hfound : (c.visit settings env node).1 with
    | true =>
      rw [visitAll_cons_of_found earlier hfound] at h
      cases h
    | false =>
      rw [visitAll_cons_of_not_found earlier hfound] at h ⊢
      rw [List.cons_append, visitAll_cons_of_not_found (earlier ++ later) hfound]
      exact ih h

/-- Behind a part of the listing that found somebody nothing is visited. -/
theorem visitAll_append_of_found {earlier : List Node} (later : List Node)
    (h : (visitAll settings env c earlier).1 = some name) :
    visitAll settings env c (earlier ++ later) = visitAll settings env c earlier := by
  induction earlier generalizing c with
  | nil => cases h
  | cons node earlier ih =>
    cases hfound : (c.visit settings env node).1 with
    | true =>
      rw [List.cons_append, visitAll_cons_of_found (earlier ++ later) hfound,
        visitAll_cons_of_found earlier hfound]
    | false =>
      rw [visitAll_cons_of_not_found earlier hfound] at h ⊢
      rw [List.cons_append, visitAll_cons_of_not_found (earlier ++ later) hfound]
      exact ih h

theorem scan_of_listed (settings : Settings) {nodes : List Node}
    (h : (c.session.listNodes env).1 = .ok nodes) :
    let visited := visitAll settings env { c with session := (c.session.listNodes env).2 } nodes
    c.scan settings env = (.ok visited.1, visited.2) := by
  unfold scan
  generalize c.session.listNodes env = reply at h ⊢
  obtain ⟨result, s⟩ := reply
  obtain rfl : result = .ok nodes := h
  rfl

/-- A record after the visits of a listing was there before, or one of the visits made it. -/
theorem visitAll_origin {nodes : List Node}
    (hr : (visitAll settings env c nodes).2.registry.get? name = some r) :
    (∃ r₀, c.registry.get? name = some r₀ ∧ r₀.ip = r.ip ∧ r₀.verified = r.verified) ∨
      ∃ node, c.EnrollsFrom settings env nodes node ∧ node.name = name ∧
        (r.verified = true → node.isControlPlane settings.controlPlaneLabels = true) := by
  induction nodes generalizing c with
  | nil => exact .inl ⟨r, hr, rfl, rfl⟩
  | cons node nodes ih =>
    have hvisit := visit_cases settings env c node
    -- The first visit makes the record, or its record is the one that was there.
    have hfirst : ∀ {s}, (c.visit settings env node).2.registry.get? name = some s →
        s.ip = r.ip → s.verified = r.verified →
        (∃ r₀, c.registry.get? name = some r₀ ∧ r₀.ip = r.ip ∧ r₀.verified = r.verified) ∨
        ∃ n, c.EnrollsFrom settings env (node :: nodes) n ∧ n.name = name ∧
          (r.verified = true → n.isControlPlane settings.controlPlaneLabels = true) := by
      intro s hs hip hverified
      rcases hvisit.origin hs with ⟨r₀, hr₀, hip₀, hverified₀⟩ | ⟨hnone, rfl, hexempt⟩
      · exact .inl ⟨r₀, hr₀, hip₀.trans hip, hverified₀.trans hverified⟩
      · refine .inr ⟨node, ⟨[], nodes, rfl, rfl, hnone, ?_⟩, rfl, hverified ▸ hexempt⟩
        exact Option.ne_none_iff_exists'.mpr ⟨s, hs⟩
    cases hfound : (c.visit settings env node).1 with
    | true =>
      rw [visitAll_cons_of_found nodes hfound] at hr
      exact hfirst hr rfl rfl
    | false =>
      rw [visitAll_cons_of_not_found nodes hfound] at hr
      rcases ih hr with ⟨s, hs, hip, hverified⟩ | ⟨n, hn, hname, hexempt⟩
      · exact hfirst hs hip hverified
      · -- A later visit makes the record; this one is put in front of what was visited before it.
        obtain ⟨earlier, later, rfl, hnotfound, hnone, hsome⟩ := hn
        have hall := visitAll_cons_of_not_found earlier hfound
        refine .inr ⟨n, ⟨node :: earlier, later, rfl, ?_, ?_, ?_⟩, hname, hexempt⟩
        · rw [hall, hnotfound]
        · rw [hall, hnone]
        · rw [hall]
          exact hsome

/-- A record after a scan was there before, or the scan made it. -/
theorem scan_origin (hr : (c.scan settings env).2.registry.get? name = some r) :
    (∃ r₀, c.registry.get? name = some r₀ ∧ r₀.ip = r.ip ∧ r₀.verified = r.verified) ∨
      ∃ node, c.Enrolls settings env node ∧ node.name = name ∧
        (r.verified = true → node.isControlPlane settings.controlPlaneLabels = true) := by
  cases hlist : c.session.listNodes env with
  | mk result s =>
    unfold scan at hr
    rw [hlist] at hr
    cases result with
    | error cause => exact .inl ⟨r, hr, rfl, rfl⟩
    | ok nodes =>
      rcases visitAll_origin hr with hold | ⟨node, hnode, hname, hexempt⟩
      · exact .inl hold
      · refine .inr ⟨node, ⟨nodes, by rw [hlist], ?_⟩, hname, hexempt⟩
        rw [hlist]
        exact hnode

end Controller

/-! ### One turn -/

/-- A record after a turn. -/
structure Turn.Origin (settings : Settings) (env : Environment ω) (t : Turn ω) (name : String)
    (r : NodeRecord) : Prop where
  kept : ¬ t.Evicts settings env name
  origin : (∃ r₀, t.before.registry.get? name = some r₀ ∧ r₀.ip = r.ip ∧
      (r.verified = true → r₀.verified = true ∨ t.Proves settings env name r.ip)) ∨
    ∃ node, t.Enrolls settings env node ∧ node.name = name ∧ (r.verified = true →
      node.isControlPlane settings.controlPlaneLabels = true ∨ t.Proves settings env name r.ip)

/-- A node whose verification succeeds has proved itself. -/
theorem Trial.proves (t : Trial settings env c) (hok : t.result = .ok ())
    (hend : t.session.Calls env [] (c.runCycle settings env).2.session) :
    Turn.Proves settings env ⟨c, .cycle⟩ t.node t.record.ip := by
  obtain ⟨es₀, es, hcalls, -, -, hattempt, -⟩ := t.all_calls hend (by simp)
  rw [hok] at hattempt
  obtain ⟨version, body, hevents⟩ := hattempt.of_ok
  refine ⟨rfl, t, events es₀, version, body, rfl, rfl, ?_⟩
  rw [Turn.entries_eq hcalls, List.append_nil, events_append, hevents]

/-- A record that goes back to one after the scan of the turn. -/
theorem Turn.Origin.of_scan {t : Turn ω} {s : NodeRecord} (hmove : t.move = .scan ∨ t.move = .cycle)
    (hkept : ¬ t.Evicts settings env name)
    (hs : (t.before.scan settings env).2.registry.get? name = some s) (hip : s.ip = r.ip)
    (hverified : r.verified = true → s.verified = true ∨ t.Proves settings env name r.ip) :
    t.Origin settings env name r := by
  refine ⟨hkept, ?_⟩
  rcases Controller.scan_origin hs with ⟨r₀, hr₀, hip₀, hverified₀⟩ | ⟨node, hnode, hname, hexempt⟩
  · exact .inl ⟨r₀, hr₀, hip₀.trans hip, fun hv => hverified₀ ▸ hverified hv⟩
  · exact .inr ⟨node, ⟨hmove, hnode⟩, hname, fun hv => (hverified hv).imp_left hexempt⟩

/-- A record after a cycle that found a node: all but the record of the node are as the scan left
them, and that one is verified only after a proof. -/
theorem Trial.origin (t : Trial settings env c) {r? : Option NodeRecord}
    (hputs : (c.scan settings env).2.registry.Puts t.node r? c'.registry)
    (hr : c'.registry.get? name = some r)
    (hkept : name ≠ t.node → ¬ Turn.Evicts settings env ⟨c, .cycle⟩ name)
    (hnode : r? = some r → ¬ Turn.Evicts settings env ⟨c, .cycle⟩ t.node ∧ t.record.ip = r.ip ∧
      (r.verified = true → Turn.Proves settings env ⟨c, .cycle⟩ t.node t.record.ip)) :
    Turn.Origin settings env ⟨c, .cycle⟩ name r := by
  by_cases hname : name = t.node
  · subst hname
    obtain ⟨hkept, hip, hproves⟩ := hnode (hputs.self.symm.trans hr)
    exact .of_scan (.inr rfl) hkept t.recorded hip fun hv => .inr (hip ▸ hproves hv)
  · rw [hputs.other hname] at hr
    exact .of_scan (.inr rfl) (hkept hname) hr rfl .inl

/-- Every record after a turn has an origin. -/
theorem Turn.origin (t : Turn ω) (hr : (t.after settings env).registry.get? name = some r) :
    t.Origin settings env name r := by
  obtain ⟨c, m⟩ := t
  cases m with
  | scan => exact .of_scan (.inl rfl) (fun h => nomatch h.1) hr rfl .inl
  | sleep interval =>
    rw [Turn.after, Controller.move_sleep] at hr
    exact ⟨fun h => (nomatch h.1), .inl ⟨r, hr, rfl, .inl⟩⟩
  | cycle =>
    have hcycle := c.runCycle_cases settings env
    have hr : (c.runCycle settings env).2.registry.get? name = some r := hr
    have hkept : ∀ other, (c.runCycle settings env).1 ≠ .remediated other →
        ¬ Turn.Evicts settings env ⟨c, .cycle⟩ other := fun other hne h => hne h.2
    generalize houtcome : (c.runCycle settings env).1 = outcome at hcycle hkept
    generalize hafter : (c.runCycle settings env).2 = c' at hcycle hr
    cases hcycle with
    -- Without a trial the cycle ends with its scan.
    | queryFailed hscan | idle hscan =>
      exact .of_scan (.inr rfl) (hkept name nofun) (by rw [hscan]; exact hr) rfl .inl
    | verified t hok hputs hend =>
      refine t.origin hputs hr (fun _ => hkept name nofun) ?_
      rintro ⟨⟩
      refine ⟨hkept t.node nofun, rfl, fun _ => t.proves hok ?_⟩
      rw [hafter]
      exact hend
    | remediated t herror hputs hfs hexpulsion htaken =>
      refine t.origin hputs hr (fun hne => hkept name ?_) nofun
      rintro ⟨⟩
      exact hne rfl
    | remediationFailed t herror hputs hfs hexpulsion hrefused =>
      refine t.origin hputs hr (fun _ => hkept name nofun) ?_
      rintro ⟨⟩
      refine ⟨hkept t.node nofun, rfl, fun hv => ?_⟩
      -- The attempt failed, so the record is not verified and there is nothing to prove.
      rw [t.unverified] at hv
      cases hv

/-! ### Runs -/

/-- The origin of a record in the turns of a run: the turn `t` made it for a listed node, after
that it was there before every turn and never forgotten, and if it is verified then the node is
exempt or has proved itself in one of these turns. -/
def Provenance (settings : Settings) (env : Environment ω) (ts : List (Turn ω)) (name : String)
    (r : NodeRecord) : Prop :=
  ∃ ts₁ t ts₂ node, ts = ts₁ ++ t :: ts₂ ∧ t.Enrolls settings env node ∧ node.name = name ∧
    (∀ u ∈ ts₂, u.before.registry.get? name ≠ none) ∧
    (∀ u ∈ t :: ts₂, ¬ u.Evicts settings env name) ∧
    (r.verified = true → node.isControlPlane settings.controlPlaneLabels = true ∨
      ∃ u ∈ t :: ts₂, u.Proves settings env name r.ip)

/-- Runs are put together one behind the other, and so are their turns. -/
theorem Controller.run_append (settings : Settings) (env : Environment ω) (c : Controller ω)
    (ms ns : List Move) :
    c.run settings env (ms ++ ns) = (c.run settings env ms).run settings env ns := by
  induction ms generalizing c with
  | nil => rfl
  | cons m ms ih => exact ih _

theorem Controller.turns_append (settings : Settings) (env : Environment ω) (c : Controller ω)
    (ms ns : List Move) : c.turns settings env (ms ++ ns) =
      c.turns settings env ms ++ (c.run settings env ms).turns settings env ns := by
  induction ms generalizing c with
  | nil => rfl
  | cons m ms ih => exact congrArg (List.cons _) (ih _)

theorem Provenance.snoc {ts : List (Turn ω)} {t : Turn ω} (horigin : t.Origin settings env name r)
    (hbefore : ∀ r₀, t.before.registry.get? name = some r₀ → Provenance settings env ts name r₀) :
    Provenance settings env (ts ++ [t]) name r := by
  obtain ⟨hkept, ⟨r₀, hr₀, hip, hverified⟩ | ⟨node, hnode, hname, hverified⟩⟩ := horigin
  · -- The record was there before the turn: the turn is added to those since it was made.
    obtain ⟨ts₁, u, ts₂, node, rfl, hnode, hname, hpresent, hnever, hproved⟩ := hbefore r₀ hr₀
    refine ⟨ts₁, u, ts₂ ++ [t], node, by simp, hnode, hname, ?_, ?_, fun hv => ?_⟩
    · intro v hv
      rcases List.mem_append.mp hv with hv | hv
      · exact hpresent v hv
      · rw [List.mem_singleton.mp hv, hr₀]
        exact nofun
    · intro v hv
      rw [← List.cons_append] at hv
      rcases List.mem_append.mp hv with hv | hv
      · exact hnever v hv
      · rw [List.mem_singleton.mp hv]
        exact hkept
    · rcases hverified hv with hv₀ | hproves
      · rcases hproved hv₀ with hexempt | ⟨v, hmem, hproves⟩
        · exact .inl hexempt
        · exact .inr ⟨v, List.mem_append_left [t] hmem, hip ▸ hproves⟩
      · exact .inr ⟨t, by simp, hproves⟩
  · -- The turn made the record, and there are no later ones.
    refine ⟨ts, t, [], node, rfl, hnode, hname, nofun, by simpa using hkept, fun hv => ?_⟩
    exact (hverified hv).imp_right fun hproves => ⟨t, by simp, hproves⟩

/-- Every record of a run of a fresh controller has its origin in the run. -/
theorem Controller.run_provenance (settings : Settings) (env : Environment ω) (world : ω)
    (ms : List Move) {name : String} {r : NodeRecord}
    (hr : (run settings env (.new world) ms).registry.get? name = some r) :
    Provenance settings env (turns settings env (.new world) ms) name r := by
  -- From the end of the run: the last turn made the record, or the record it came from was there.
  induction ms using List.reverseRecOn generalizing r with
  | nil => cases hr
  | append_singleton ms m ih =>
    rw [run_append] at hr
    rw [turns_append]
    exact .snoc (Turn.origin _ hr) fun r₀ hr₀ => ih hr₀

/-- No false admission: whatever is done with a fresh controller in whatever environment, a record
that is verified in the end was made for a node of the control plane, or the node has proved
itself since then. -/
theorem verified_provenance (settings : Settings) (env : Environment ω) (world : ω) (ms : List Move)
    {name : String} {r : NodeRecord}
    (hr : (Controller.run settings env (.new world) ms).registry.get? name = some r)
    (hverified : r.verified = true) :
    ∃ ts₁ t ts₂ node, Controller.turns settings env (.new world) ms = ts₁ ++ t :: ts₂ ∧
      t.Enrolls settings env node ∧ node.name = name ∧
      (∀ u ∈ ts₂, u.before.registry.get? name ≠ none) ∧
      (∀ u ∈ t :: ts₂, ¬ u.Evicts settings env name) ∧
      (node.isControlPlane settings.controlPlaneLabels = true ∨
        ∃ u ∈ t :: ts₂, u.Proves settings env name r.ip) := by
  obtain ⟨ts₁, t, ts₂, node, hturns, hnode, hname, hpresent, hnever, hproved⟩ :=
    Controller.run_provenance settings env world ms hr
  exact ⟨ts₁, t, ts₂, node, hturns, hnode, hname, hpresent, hnever, hproved hverified⟩

/-! ### A cluster of one worker -/

def sampleWorker : Node where
  name := "worker"
  labels := .empty
  annotations := .empty
  conditions := [⟨"Ready", "True"⟩]
  addresses := [⟨"InternalIP", "10.0.0.7"⟩]

/-- A cluster of the worker alone, with an agent and a crypto service that do their duty. -/
def sampleEnvironment : Environment Unit where
  version _ := pure (.ok "1.0.0")
  encrypt _ _ := pure (.ok "c2VjcmV0")
  register _ := pure (.ok ())
  decrypt _ _ _ := pure (.ok (Utf8.encodeChars (Challenge.ofNumber 0).chars))
  challenges := .ofNumber
  listNodes := pure (.ok [sampleWorker])
  apply _ _ := pure (.ok ())
  probe _ := pure true

/-- A cluster whose only node is listed as the worker at first and as `later` after that. Its probe
gives up after twenty seconds. -/
def relistedEnvironment (later : Node) : Environment Unit :=
  { sampleEnvironment with
    listNodes := fun now w => ⟨.ok [if now = 0 then sampleWorker else later], 0, w⟩
    probe := fun _ _ w => ⟨false, 20000000000, w⟩ }

def sampleSettings : Settings where
  scanInterval := ⟨30000000000, by decide⟩
  retryCooldown := ⟨300000000000, by decide⟩
  internalIpAnnotation := "k3s.io/internal-ip"
  controlPlaneLabels := ["node-role.kubernetes.io/master"]
  identity := ⟨"server", "challenge-key"⟩

/-- A cycle, and a sleep that is longer than the cooldown. -/
def cooldownMoves : List Move := [.cycle, .sleep (.ofMillis 300001)]

/-- The sample worker is found by the scan and verified by the cycle. -/
theorem get?_sampleWorker :
    (Controller.run sampleSettings sampleEnvironment (.new ()) [.scan, .cycle]).registry.get?
      "worker" = some { name := "worker", ip := "10.0.0.7", verified := true } := rfl

/-- The worker is verified after a scan and a cycle, and its record has its provenance. -/
theorem sampleWorker_provenance :
    (Controller.run sampleSettings sampleEnvironment (.new ()) [.scan, .cycle]).registry.get?
        "worker" = some { name := "worker", ip := "10.0.0.7", verified := true } ∧
      ∃ ts₁ t ts₂ node,
        Controller.turns sampleSettings sampleEnvironment (.new ()) [.scan, .cycle] =
          ts₁ ++ t :: ts₂ ∧
        t.Enrolls sampleSettings sampleEnvironment node ∧ node.name = "worker" ∧
        (∀ u ∈ ts₂, u.before.registry.get? "worker" ≠ none) ∧
        (∀ u ∈ t :: ts₂, ¬ u.Evicts sampleSettings sampleEnvironment "worker") ∧
        (node.isControlPlane sampleSettings.controlPlaneLabels = true ∨
          ∃ u ∈ t :: ts₂, u.Proves sampleSettings sampleEnvironment "worker" "10.0.0.7") :=
  ⟨get?_sampleWorker,
    verified_provenance sampleSettings sampleEnvironment () [.scan, .cycle] get?_sampleWorker rfl⟩

end NodeAdmission.Admission
