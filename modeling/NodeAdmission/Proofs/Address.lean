import Mathlib.Data.List.Nodup
import NodeAdmission.Proofs.Course

/-!
# Addresses

The address of a record is the one that was reported for the node when the record was made, and it
stays the same while there is a record.

* `Addressed` — the invariant: the run has a turn that met the node, without a record, at this
  address, and from then on there was a record with it all along.
* `Addressed.snoc`, `Controller.run_addressed` — one more turn keeps it, so it holds
  of every record of a run.
* `Course.agent_address` — a cycle calls the agent of its trial only, at the address in its record.
* `run_agent_address` — the main statement: the agent that a cycle calls is at the address
  of the present listing for a node without a record, and of the listing from which the
  record was made otherwise.

That it is always the address of the present listing does not hold. The cluster may report another
address for a node that waits for its cooldown, and that one is never looked at
(`moved_worker_asked_at_old_address`).
-/

namespace NodeAdmission.Admission

open Cluster (Node)

/-- The turn starts without a record of the node, and lists it with the address `ip`. -/
def Turn.Meets (settings : Settings) (env : Environment ω) (t : Turn ω) (name ip : String) : Prop :=
  t.before.registry.get? name = none ∧
    ∃ nodes, (t.before.session.listNodes env).1 = .ok nodes ∧ ∃ node ∈ nodes, node.name = name ∧
      node.internalIp? settings.internalIpAnnotation = some ip

/-- One of the turns met the node with the address `ip`. Since then there was a record of it with
this address, and it was never forgotten. -/
def Addressed (settings : Settings) (env : Environment ω) (ts : List (Turn ω)) (name ip : String) :
    Prop :=
  ∃ ts₁ t ts₂, ts = ts₁ ++ t :: ts₂ ∧ t.Meets settings env name ip ∧
    (∀ u ∈ ts₂, ∃ r, u.before.registry.get? name = some r ∧ r.ip = ip) ∧
    ∀ u ∈ t :: ts₂, ¬ u.Evicts settings env name

variable {settings : Settings} {env : Environment ω} {c c' : Controller ω} {nodes : List Node}
  {name ip : String} {r : NodeRecord} {e : Entry} {es : List Entry} {ts : List (Turn ω)}
  {t : Turn ω} {outcome : CycleOutcome}

/-! ### Records -/

/-- One more turn. It made the record itself, and so it met the node; or the record was there before
the turn, and then the turn kept its address. -/
theorem Addressed.snoc (hr : (t.after settings env).registry.get? name = some r)
    (hbefore : ∀ r₀, t.before.registry.get? name = some r₀ →
      Addressed settings env ts name r₀.ip) :
    Addressed settings env (ts ++ [t]) name r.ip := by
  have hkept := Turn.not_evicts hr
  -- Was the record there before the turn?
  cases hr₀ : t.before.registry.get? name with
  | none =>
    obtain ⟨nodes, hlist, node, hmem, hname, -, hip⟩ := Turn.created hr₀ hr
    refine ⟨ts, t, [], rfl, ⟨hr₀, nodes, hlist, node, hmem, hname, hip⟩, nofun, ?_⟩
    simpa using hkept
  | some r₀ =>
    obtain ⟨r', hr', -, hip⟩ := Turn.present hr₀ hkept
    obtain rfl := Option.some.inj (hr'.symm.trans hr)
    rw [hip]
    obtain ⟨ts₁, u, ts₂, rfl, hmeets, hrecorded, hnever⟩ := hbefore r₀ hr₀
    refine ⟨ts₁, u, ts₂ ++ [t], by simp, hmeets, ?_, ?_⟩
    · exact List.forall_mem_append.mpr ⟨hrecorded, List.forall_mem_singleton.mpr ⟨r₀, hr₀, rfl⟩⟩
    · rw [← List.cons_append]
      exact List.forall_mem_append.mpr ⟨hnever, List.forall_mem_singleton.mpr hkept⟩

/-- Every record of a run of a fresh controller has the address with which its node was met. -/
theorem Controller.run_addressed (settings : Settings) (env : Environment ω) (world : ω)
    (ms : List Move) (hr : (run settings env (.new world) ms).registry.get? name = some r) :
    Addressed settings env (turns settings env (.new world) ms) name r.ip := by
  induction ms using List.reverseRecOn generalizing r with
  | nil => cases hr
  | append_singleton ms m ih =>
    rw [run_append] at hr
    rw [turns_append]
    exact .snoc hr fun r₀ hr₀ => ih hr₀

/-! ### Calls -/

/-- Only the agent of the node on trial is called. -/
theorem Course.agent_address (h : Course settings env c es outcome c') (he : e ∈ es)
    (hip : e.event.request.agentAddress? = some ip) :
    ∃ t : Trial settings env c, ip = t.record.ip := by
  cases h.callOf he with
  | scan hsurvey he =>
    rw [hsurvey.no_agent he] at hip
    cases hip
  | attempt t hcalls hattempt he =>
    exact ⟨t, hattempt.agentAddress_eq (List.mem_map_of_mem he) hip⟩
  | step t hevent =>
    rw [hevent] at hip
    cases hip

/-- Where the agent of a node is asked that the scan of `nodes` finds after the turns `ts`. -/
structure AskedAt (settings : Settings) (env : Environment ω) (ts : List (Turn ω))
    (c : Controller ω) (nodes : List Node) (name ip : String) : Prop where
  recorded : ∃ r, (c.scan settings env).2.registry.get? name = some r ∧ r.ip = ip
  asked : ∀ e ∈ agentCalls (Turn.entries settings env ⟨c, .cycle⟩),
    e.request.agentAddress? = some ip
  listed : ∃ node ∈ nodes, node.name = name ∧ node.isReady = true ∧
    (c.registry.get? name = none → node.internalIp? settings.internalIpAnnotation = some ip)
  earlier : ∀ r, c.registry.get? name = some r → r.ip = ip ∧ Addressed settings env ts name ip

/-- The agent of a node that a scan finds under a name that is listed once is asked at the address
of its record. For a node without a record before the scan that is the address in this listing,
and for any other it is the address with which the node was met when its record was made. -/
theorem run_agent_address (settings : Settings) (env : Environment ω) (world : ω) (ms : List Move)
    (hlist : ((Controller.run settings env (.new world) ms).session.listNodes env).1 = .ok nodes)
    (hdistinct : (nodes.map Node.name).Nodup)
    (hfound : ((Controller.run settings env (.new world) ms).scan settings env).1 =
      .ok (some name)) :
    ∃ ip, AskedAt settings env (Controller.turns settings env (.new world) ms)
      (Controller.run settings env (.new world) ms) nodes name ip := by
  have hrun : ∀ {r},
      (Controller.run settings env (.new world) ms).registry.get? name = some r → _ :=
    Controller.run_addressed settings env world ms
  -- The run is needed for the addresses only, the rest is about one cycle from its end.
  generalize Controller.run settings env (.new world) ms = c at hlist hfound hrun ⊢
  obtain ⟨t, rfl⟩ := Trial.of_found hfound
  obtain ⟨es, hsurvey⟩ := c.scan_survey settings env
  refine ⟨t.record.ip, ⟨t.record, t.recorded, rfl⟩, ?_, ?_, ?_⟩
  · -- Every call to an agent is a call of the trial, and there is one trial in a cycle.
    intro event hevent
    obtain ⟨hmem, hsome⟩ := List.mem_filter.mp hevent
    obtain ⟨e, he, rfl⟩ := List.mem_map.mp hmem
    obtain ⟨ip, hip⟩ := Option.isSome_iff_exists.mp hsome
    have hcourse : Course settings env c (Turn.entries settings env ⟨c, .cycle⟩) _ _ :=
      Turn.course_of_cycle (t := ⟨c, .cycle⟩) rfl
    obtain ⟨u, rfl⟩ := hcourse.agent_address he hip
    rw [hip, u.eq t]
  · rw [hfound] at hsurvey
    obtain ⟨nodes', hlist', node, hmem, hname, hready⟩ := hsurvey.ready_of_found
    obtain rfl : nodes = nodes' := Except.ok.inj (hlist.symm.trans hlist')
    refine ⟨node, hmem, hname, hready, ?_⟩
    intro hnone
    -- The record was made for the same entry, since no other has the name.
    obtain ⟨nodes', hlist', m, hm, hmname, hmade⟩ := hsurvey.created hnone t.recorded
    obtain rfl : nodes = nodes' := Except.ok.inj (hlist.symm.trans hlist')
    obtain rfl := List.inj_on_of_nodup_map hdistinct hm hmem (hmname.trans hname.symm)
    exact hmade.address
  · intro r hr
    -- Beginning an attempt does not change the address.
    have hip : r.ip = t.record.ip := (t.unverified_before hr).2
    rw [← hip]
    exact ⟨rfl, hrun hr⟩

/-! ### A worker that moves -/

def movedWorker : Node :=
  { sampleWorker with addresses := [⟨"InternalIP", "10.0.0.8"⟩] }

/-- The moved worker is found by the scan that comes after its cooldown. -/
theorem scan_movedWorker :
    ((Controller.run sampleSettings (relistedEnvironment movedWorker) (.new ()) cooldownMoves).scan
      sampleSettings (relistedEnvironment movedWorker)).1 = .ok (some "worker") := rfl

/-- A worker that could not be reached at first and is listed at another address later: its agent
is asked at one address only. -/
theorem moved_worker_asked :
    let env := relistedEnvironment movedWorker
    let c := Controller.run sampleSettings env (.new ()) cooldownMoves
    (c.session.listNodes env).1 = .ok [movedWorker] ∧
      (c.scan sampleSettings env).1 = .ok (some "worker") ∧
      ∃ ip, AskedAt sampleSettings env
        (Controller.turns sampleSettings env (.new ()) cooldownMoves) c
          [movedWorker] "worker" ip := by
  intro env c
  have hlist : (c.session.listNodes env).1 = .ok [movedWorker] := rfl
  exact ⟨hlist, scan_movedWorker,
    run_agent_address sampleSettings env () cooldownMoves hlist (by simp) scan_movedWorker⟩

/-- That address is where the worker was, and not where it is listed. -/
theorem moved_worker_asked_at_old_address :
    let env := relistedEnvironment movedWorker
    let c := Controller.run sampleSettings env (.new ()) cooldownMoves
    (c.session.listNodes env).1 = .ok [movedWorker] ∧ movedWorker.name = "worker" ∧
      movedWorker.internalIp? sampleSettings.internalIpAnnotation = some "10.0.0.8" ∧
      (c.scan sampleSettings env).1 = .ok (some "worker") ∧
      (c.scan sampleSettings env).2.registry.get? "worker" = some
        { name := "worker", ip := "10.0.0.7", challenge? := some (.ofNumber 1),
          nextCheckAt? := some 20000000000 } ∧
      (agentCalls (Turn.entries sampleSettings env ⟨c, .cycle⟩)).map (·.request.agentAddress?) =
        [some "10.0.0.7", some "10.0.0.7"] :=
  ⟨rfl, rfl, by decide, rfl, rfl, rfl⟩

end NodeAdmission.Admission
