import NodeAdmission.Proofs.Address
import NodeAdmission.Proofs.Cooldown
import NodeAdmission.Proofs.Outcomes

/-!
# Empty addresses

An annotation that is empty counts as absent, and then the first address of kind `InternalIP` is
taken as it is. So a node is passed over if it has no such address, but an address that is there and
empty is recorded and probed.

* `listedAddress?_eq_some_iff` — the listed address is the first of its kind, empty or not.
* `unannotated_of_internalIp?_eq_empty` — an empty address never comes from the annotation.
* `Turn.passesOver` — a node without annotation and without addresses of this kind gets no record in
  a turn, and nobody asks for it.
* `run_records_addressed` — the main statement. The way just described is the only one in which a
  record comes by an empty address, and that is an invariant of runs: it goes back to the turn in
  which the record was made (`Controller.run_addressed`).

The last example shows what comes of such a record: the probe fails at the empty address, and after
its cooldown the worker is expelled, though another address was listed all the time
(`worker_recorded_without_address`).
-/

namespace NodeAdmission

namespace Cluster.Node

/-- The annotation says nothing, so the listed addresses decide. -/
def Unannotated (n : Node) (key : String) : Prop :=
  n.annotations.get? key = none ∨ n.annotations.get? key = some ""

variable {n : Node} {key ip : String}

/-- There is no listed address just if there is none of its kind. -/
theorem listedAddress?_eq_none_iff :
    n.listedAddress? = none ↔ ∀ a ∈ n.addresses, a.kind ≠ "InternalIP" := by
  simp [listedAddress?]

/-- The other addresses are not looked at, nor those after it. -/
theorem listedAddress?_eq_some_iff :
    n.listedAddress? = some ip ↔ ∃ earlier later,
      n.addresses = earlier ++ ⟨"InternalIP", ip⟩ :: later ∧
        ∀ a ∈ earlier, a.kind ≠ "InternalIP" := by
  unfold listedAddress?
  rw [Option.map_eq_some_iff]
  constructor
  · rintro ⟨⟨kind, address⟩, hfind, rfl⟩
    obtain ⟨hkind, earlier, later, haddresses, hearlier⟩ := List.find?_eq_some_iff_append.mp hfind
    obtain rfl : kind = "InternalIP" := by simpa using hkind
    exact ⟨earlier, later, haddresses, by simpa using hearlier⟩
  · rintro ⟨earlier, later, haddresses, hearlier⟩
    refine ⟨⟨"InternalIP", ip⟩, ?_, rfl⟩
    exact List.find?_eq_some_iff_append.mpr
      ⟨by simp, earlier, later, haddresses, by simpa using hearlier⟩

theorem internalIp?_of_unannotated (h : n.Unannotated key) :
    n.internalIp? key = n.listedAddress? := by
  rcases h with h | h <;> simp [internalIp?, h]

/-- An annotation that counts is not empty. -/
theorem unannotated_of_internalIp?_eq_empty (h : n.internalIp? key = some "") :
    n.Unannotated key := by
  cases hvalue : n.annotations.get? key with
  | none => exact .inl hvalue
  | some value =>
    by_cases hempty : value = ""
    · subst hempty
      exact .inr hvalue
    · simp [internalIp?, hvalue, hempty] at h

end Cluster.Node

namespace Admission

open Cluster (Node)

/-- The turn neither records the node nor asks for anything about it, nor deals with it. -/
structure Turn.PassesOver (settings : Settings) (env : Environment ω) (t : Turn ω) (name : String) :
    Prop where
  unrecorded : (t.after settings env).registry.get? name = none
  unasked : ∀ e ∈ t.entries settings env, e.event.request.node? ≠ some name
  unnamed : ∀ outcome, t.outcome? settings env = some outcome → outcome.node? ≠ some name

variable {settings : Settings} {env : Environment ω} {c : Controller ω} {nodes : List Node}
  {name : String} {t : Turn ω} {e : Entry}

/-- Wherever the node is listed, it has neither an annotation nor an address
of kind `InternalIP`. -/
def Unaddressed (settings : Settings) (nodes : List Node) (name : String) : Prop :=
  ∀ node ∈ nodes, node.name = name →
    node.Unannotated settings.internalIpAnnotation ∧ ∀ a ∈ node.addresses, a.kind ≠ "InternalIP"

/-! ### One turn -/

/-- A scan makes no record of a node without any address. -/
theorem Controller.scan_unaddressed (hlist : (c.session.listNodes env).1 = .ok nodes)
    (hnone : c.registry.get? name = none) (hbare : Unaddressed settings nodes name) :
    (c.scan settings env).2.registry.get? name = none := by
  obtain ⟨es, hsurvey⟩ := c.scan_survey settings env
  cases hr : (c.scan settings env).2.registry.get? name with
  | none => rfl
  | some r =>
    obtain ⟨nodes', hlist', node, hmem, hname, hmade⟩ := hsurvey.created hnone hr
    obtain rfl : nodes = nodes' := Except.ok.inj (hlist.symm.trans hlist')
    obtain ⟨hunannotated, haddresses⟩ := hbare node hmem hname
    have haddress := hmade.address
    rw [Node.internalIp?_of_unannotated hunannotated,
      Node.listedAddress?_eq_none_iff.mpr haddresses] at haddress
    cases haddress

/-- Whoever a call is about has a record after the scan. -/
theorem CallOf.recorded (h : CallOf settings env c e) (hkeyed : c.registry.Keyed)
    (hname : e.event.request.node? = some name) :
    ∃ r, (c.scan settings env).2.registry.get? name = some r := by
  cases h with
  | scan hsurvey he =>
    obtain ⟨nodes, -, node, -, ip, reachable, hevent, -⟩ := hsurvey.probed he hname
    rw [hevent] at hname
    obtain rfl := Option.some.inj hname
    exact hsurvey.recorded_of_probe he ⟨ip, by rw [hevent]; rfl⟩
  | attempt u hcalls hattempt he =>
    obtain ⟨rfl, -⟩ := hattempt.node_eq (List.mem_map_of_mem he) hname
    rw [u.record_name hkeyed]
    exact ⟨u.record, u.recorded⟩
  | step u hevent =>
    rw [hevent] at hname
    obtain rfl := Option.some.inj hname
    exact ⟨u.record, u.recorded⟩

namespace Turn

/-- The step lemma. Whatever a turn does about a node needs a record of it. -/
theorem passesOver (hkeyed : t.before.registry.Keyed)
    (hlist : (t.before.session.listNodes env).1 = .ok nodes)
    (hnone : t.before.registry.get? name = none) (hbare : Unaddressed settings nodes name) :
    t.PassesOver settings env name := by
  have hscan : (t.before.scan settings env).2.registry.get? name = none :=
    Controller.scan_unaddressed hlist hnone hbare
  refine ⟨?_, ?_, ?_⟩
  · cases hmove : t.move with
    | scan =>
      rw [Turn.after, hmove]
      exact hscan
    | cycle => exact (course_of_cycle hmove).absent hscan
    | sleep interval =>
      rw [Turn.after, hmove, Controller.move_sleep]
      exact hnone
  · intro e he hname
    rcases callOf he with ⟨interval, hevent⟩ | ⟨-, hcall⟩
    · rw [hevent] at hname
      cases hname
    · -- Whoever a call is about has a record.
      obtain ⟨r, hr⟩ := hcall.recorded hkeyed hname
      rw [hscan] at hr
      cases hr
  · -- The node of an outcome was on trial, and who is on trial has a record.
    intro outcome houtcome hname
    obtain ⟨u, rfl⟩ := trial_of_outcome? houtcome hname
    rw [u.recorded] at hscan
    cases hscan

end Turn

/-! ### Runs -/

/-- Where the addresses of a run of a fresh controller come from. A record with an empty address
was made in a turn that listed its node with an empty annotation or none, and with an empty address
as the first one of its kind. A node without annotation and without addresses of this kind is passed
over, as long as there is no record of it. -/
theorem run_records_addressed (settings : Settings) (env : Environment ω) (world : ω)
    (ms : List Move) :
    let turns := Controller.turns settings env (.new world) ms
    (∀ name r, (Controller.run settings env (.new world) ms).registry.get? name = some r →
      r.ip = "" → ∃ t ∈ turns, t.before.registry.get? name = none ∧
        ∃ nodes, (t.before.session.listNodes env).1 = .ok nodes ∧ ∃ node ∈ nodes,
          node.name = name ∧ node.Unannotated settings.internalIpAnnotation ∧
          ∃ earlier later, node.addresses = earlier ++ ⟨"InternalIP", ""⟩ :: later ∧
            ∀ a ∈ earlier, a.kind ≠ "InternalIP") ∧
    ∀ t ∈ turns, ∀ nodes name, (t.before.session.listNodes env).1 = .ok nodes →
      t.before.registry.get? name = none → Unaddressed settings nodes name →
      t.PassesOver settings env name := by
  intro turns
  refine ⟨?_, ?_⟩
  · intro name r hr hempty
    -- The address of a record is that of its node when the record was made.
    have haddressed := Controller.run_addressed settings env world ms hr
    rw [hempty] at haddressed
    obtain ⟨ts₁, t, ts₂, hturns, ⟨hnone, nodes, hlist, node, hmem, hname, hip⟩, -⟩ := haddressed
    have ht : t ∈ turns := by simp [turns, hturns]
    have hunannotated := Node.unannotated_of_internalIp?_eq_empty hip
    rw [Node.internalIp?_of_unannotated hunannotated] at hip
    exact ⟨t, ht, hnone, nodes, hlist, node, hmem, hname, hunannotated,
      Node.listedAddress?_eq_some_iff.mp hip⟩
  · intro t ht nodes name hlist hnone hbare
    exact Turn.passesOver (Controller.reachable_of_mem_turns ht).keyed hlist hnone hbare

/-! ### A worker whose first address is empty -/

/-- The worker with an empty address in front of its own, next to a worker without addresses. Nobody
is reached and nobody answers at an empty address. -/
def emptyFirstEnvironment : Environment Unit :=
  { sampleEnvironment with
    listNodes := pure (.ok
      [{ sampleWorker with name := "bare", addresses := [⟨"Hostname", "bare"⟩] },
        { sampleWorker with addresses := [⟨"InternalIP", ""⟩, ⟨"InternalIP", "10.0.0.7"⟩] }])
    probe := fun ip => pure (ip ≠ "")
    version := fun ip => pure (if ip = "" then .error (.invalidResponse "") else .ok "1.0.0") }

/-- The worker without addresses is passed over. The record of the other one has the empty address,
and a turn that lists it so. -/
theorem emptyFirst_addressed :
    let c := Controller.new ()
    let turns := Controller.turns sampleSettings emptyFirstEnvironment c [.cycle]
    (∃ r, (c.run sampleSettings emptyFirstEnvironment [.cycle]).registry.get? "worker" = some r ∧
      r.ip = "" ∧ ∃ t ∈ turns, t.before.registry.get? "worker" = none) ∧
    Turn.PassesOver sampleSettings emptyFirstEnvironment ⟨c, .cycle⟩ "bare" := by
  intro c turns
  obtain ⟨hempty, hbare⟩ := run_records_addressed sampleSettings emptyFirstEnvironment () [.cycle]
  refine ⟨⟨{ name := "worker", ip := "", nextCheckAt? := some 0 }, rfl, rfl, ?_⟩, ?_⟩
  · obtain ⟨t, ht, hnone, -⟩ := hempty "worker" _ rfl rfl
    exact ⟨t, ht, hnone⟩
  · refine hbare _ List.mem_cons_self _ "bare" rfl rfl ?_
    simp [Unaddressed, Node.Unannotated, sampleWorker, sampleSettings, Json.TextMap.get?,
      Json.TextMap.empty]

/-- The worker with an empty address in front of its own is recorded and probed at the empty
address. When the cooldown is over its agent is called there, which fails, and so the worker is
cordoned, drained and deleted. -/
theorem worker_recorded_without_address :
    let c := Controller.run sampleSettings emptyFirstEnvironment (.new ()) cooldownMoves
    c.registry.get? "worker" = some { name := "worker", ip := "", nextCheckAt? := some 0 } ∧
      (events (Turn.entries sampleSettings emptyFirstEnvironment ⟨.new (), .cycle⟩)).map
        Event.request = [.list, .probe "worker" ""] ∧
      (events (Turn.entries sampleSettings emptyFirstEnvironment ⟨c, .cycle⟩)).map
        Event.request = [.list, .version "worker" "", .apply .cordon "worker",
          .apply .drain "worker", .apply .delete "worker"] :=
  ⟨rfl, rfl, rfl⟩

end Admission

end NodeAdmission
