import Mathlib.Data.List.Forall2
import NodeAdmission.Proofs.Alike
import NodeAdmission.Proofs.Provenance
import NodeAdmission.Proofs.Visits

/-!
# What a scan depends on

Two scans are compared that begin in the same state. One of them is told of more nodes: of nodes
that are not ready or have been verified, anywhere in the listing, and of any nodes behind the one
that the other scan finds. The two scans may also draw different challenges. Still they find the
same node, probe the same addresses at the same times and leave the same records.

The comparison is a simulation.

* `Controller.Twins` — the relation of the two controllers. They have made the same calls since the
  listing, and their records are alike up to the challenges.
* `Controller.Twins.visit` — a visit of the same node keeps it. The lemmas before it do so for each
  thing that a visit may do: draw, begin an attempt, probe.
* `Controller.visit_of_ignores` — a visit of a node that has been put in changes nothing, so the
  second controller may make it alone.
* `Controller.Twins.visitAll` — the run of the simulation, by induction on what has been put in.
* `scan_of_extends` — the main statement.

The relation of the challenges is a parameter. With equality it says that the same challenges leave
equal registries, and with `SameTurn` it covers two generators.
-/

namespace NodeAdmission.Admission

open Cluster (Node OrchestratorError)

variable {K : Challenge → Challenge → Prop}

/-! ### Registries that differ in their challenges -/

/-- The entries have the same names in the same order, and alike records. -/
abbrev Registry.EntriesAlike (K : Challenge → Challenge → Prop) :
    List (String × NodeRecord) → List (String × NodeRecord) → Prop :=
  List.Forall₂ fun e e' => e'.1 = e.1 ∧ e.2.Alike K e'.2

/-- The registries have alike records under the same names. -/
def Registry.Alike (K : Challenge → Challenge → Prop) (g g' : Registry) : Prop :=
  Registry.EntriesAlike K g.entries g'.entries

namespace Registry

variable {g g' : Registry} {es es' : List (String × NodeRecord)}

theorem EntriesAlike.find (h : EntriesAlike K es es') (name : String) :
    Option.Rel (NodeRecord.Alike K) (find name es) (find name es') := by
  induction h with
  | nil => exact .none
  | @cons e e' es es' he hes ih =>
    obtain ⟨k, r⟩ := e
    obtain ⟨k', r'⟩ := e'
    obtain ⟨rfl, hr⟩ := he
    unfold Registry.find
    split_ifs
    · exact .some hr
    · exact ih

/-- Changes that keep records alike keep entries alike. -/
theorem EntriesAlike.change (h : EntriesAlike K es es') (name : String)
    {f f' : NodeRecord → NodeRecord} (hf : ∀ r r', r.Alike K r' → (f r).Alike K (f' r')) :
    EntriesAlike K (change name f es) (change name f' es') := by
  induction h with
  | nil => exact .nil
  | @cons e e' es es' he hes ih =>
    obtain ⟨k, r⟩ := e
    obtain ⟨k', r'⟩ := e'
    obtain ⟨rfl, hr⟩ := he
    unfold Registry.change
    split_ifs
    · exact .cons ⟨rfl, hf r r' hr⟩ hes
    · exact .cons ⟨rfl, hr⟩ ih

namespace Alike

theorem refl (hK : ∀ ch, K ch ch) (g : Registry) : g.Alike K g :=
  List.forall₂_same.mpr fun e _ => ⟨rfl, .refl hK e.2⟩

theorem eq (h : g.Alike Eq g') : g' = g := by
  obtain ⟨entries, nodup⟩ := g
  obtain ⟨entries', nodup'⟩ := g'
  have hentries : entries = entries' := by
    rw [← List.forall₂_eq_eq_eq]
    exact h.imp fun e e' he => Prod.ext he.1.symm he.2.eq.symm
  subst hentries
  rfl

theorem get? (h : g.Alike K g') (name : String) :
    Option.Rel (NodeRecord.Alike K) (g.get? name) (g'.get? name) :=
  EntriesAlike.find h name

theorem get?_eq_none_iff (h : g.Alike K g') (name : String) :
    g'.get? name = none ↔ g.get? name = none := by
  have hrel := h.get? name
  generalize g.get? name = r? at hrel ⊢
  generalize g'.get? name = r?' at hrel ⊢
  cases hrel with
  | none => exact Iff.rfl
  | some hr => simp

theorem modify (h : g.Alike K g') (name : String) {f f' : NodeRecord → NodeRecord}
    (hf : ∀ r r', r.Alike K r' → (f r).Alike K (f' r')) :
    (g.modify name f).Alike K (g'.modify name f') :=
  EntriesAlike.change h name hf

/-- Enrolling a name makes the same record in both, or none. -/
theorem enroll (h : g.Alike K g') (name ip : String) :
    (g.enroll name ip).Alike K (g'.enroll name ip) := by
  unfold Registry.enroll
  by_cases hnone : g.get? name = none
  · rw [dif_pos hnone, dif_pos ((h.get?_eq_none_iff name).mpr hnone)]
    exact List.rel_append h (.cons ⟨rfl, .new name ip⟩ .nil)
  · rw [dif_neg hnone, dif_neg (mt (h.get?_eq_none_iff name).mp hnone)]
    exact h

end Alike
end Registry

/-! ### Controllers that do the same

Twins have different logs, for they were told of different nodes. So the relation counts from the
listing on, and the two logs have the same end. -/

/-- The sessions have come to the same point: since their logs were `base` and `base'` the same
calls have been made, and as many challenges have been drawn, from `start` on. -/
structure Session.Twins (start : Nat) (base base' : List Entry) (s s' : Session ω) : Prop where
  world : s'.world = s.world
  now : s'.now = s.now
  drawn : s'.drawn = s.drawn
  log : ∃ es, s.log = base ++ es ∧ s'.log = base' ++ es
  start_le : start ≤ s.drawn

/-- The controllers have come to the same point, and know the same but for their challenges. -/
structure Controller.Twins (K : Challenge → Challenge → Prop) (start : Nat)
    (base base' : List Entry)
    (c c' : Controller ω) : Prop where
  registry : c.registry.Alike K c'.registry
  session : Session.Twins start base base' c.session c'.session

variable {settings : Settings} {env env' : Environment ω} {c c' : Controller ω} {s s' : Session ω}
  {start : Nat} {base base' : List Entry} {node : Node} {nodes nodes' : List Node} {name : String}

namespace Session.Twins

theorem call {α : Type} (h : Session.Twins start base base' s s') (action : Timed ω α)
    (event : α → Event) :
    (s'.call action event).1 = (s.call action event).1 ∧
      Session.Twins start base base' (s.call action event).2 (s'.call action event).2 := by
  obtain ⟨world, now, drawn, log⟩ := s
  obtain ⟨world', now', drawn', log'⟩ := s'
  obtain ⟨rfl, rfl, rfl, ⟨es, rfl, rfl⟩, hstart⟩ := h
  let reply := action now' world'
  let entry : Entry := ⟨now', now' + reply.elapsed, event reply.value⟩
  refine ⟨rfl, rfl, rfl, rfl, ⟨es ++ [entry], ?_, ?_⟩, hstart⟩
  · exact List.append_assoc base es [entry]
  · exact List.append_assoc base' es [entry]

/-- Both draw, and what is drawn is related. -/
theorem draw (h : Session.Twins start base base' s s')
    (hfresh : ∀ n ≥ start, K (env.challenges n) (env'.challenges n)) :
    K (s.draw env).1 (s'.draw env').1 ∧
      Session.Twins start base base' (s.draw env).2 (s'.draw env').2 := by
  constructor
  · show K (env.challenges s.drawn) (env'.challenges s'.drawn)
    rw [h.drawn]
    exact hfresh _ h.start_le
  · exact ⟨h.world, h.now, congrArg (· + 1) h.drawn, h.log, Nat.le_succ_of_le h.start_le⟩

end Session.Twins

namespace Controller.Twins

/-- Both draw a challenge for the record or neither does, as one is pending in both or in none. -/
theorem beginAttempt (h : Twins K start base base' c c') (name : String)
    (hfresh : ∀ n ≥ start, K (env.challenges n) (env'.challenges n)) :
    Twins K start base base' (c.beginAttempt env name) (c'.beginAttempt env' name) := by
  unfold Controller.beginAttempt
  have hrel := h.registry.get? name
  generalize c.registry.get? name = r? at hrel ⊢
  generalize c'.registry.get? name = r?' at hrel ⊢
  cases hrel with
  | none => exact h
  | @some r r' hr =>
    have hchallenge := hr.challenge
    dsimp only
    -- Of alike records both have a challenge or neither has one.
    generalize r.challenge? = ch? at hchallenge ⊢
    generalize r'.challenge? = ch?' at hchallenge ⊢
    cases hchallenge with
    | none =>
      obtain ⟨hK, hsession⟩ := h.session.draw hfresh
      exact ⟨h.registry.modify name fun r r' hr => hr.beginAttempt hK, hsession⟩
    | some _ => exact h

theorem visitKnown {r r' : NodeRecord} (h : Twins K start base base' c c') (name : String)
    (hr : r.Alike K r') (hfresh : ∀ n ≥ start, K (env.challenges n) (env'.challenges n)) :
    (c'.visitKnown settings env' name r').1 = (c.visitKnown settings env name r).1 ∧
      Twins K start base base' (c.visitKnown settings env name r).2
        (c'.visitKnown settings env' name r').2 := by
  unfold Controller.visitKnown
  rw [hr.verified, hr.cooldownElapsed, h.session.now]
  split_ifs
  · exact ⟨rfl, h⟩
  · exact ⟨rfl, h.beginAttempt name hfresh⟩

/-- The probe has the same answer, and a failure is recorded at the same time. -/
theorem probeNode (h : Twins K start base base' c c') (name ip : String)
    (hprobe : env'.probe = env.probe) :
    (c'.probeNode env' name ip).1 = (c.probeNode env name ip).1 ∧
      Twins K start base base' (c.probeNode env name ip).2 (c'.probeNode env' name ip).2 := by
  obtain ⟨hreached, hsession⟩ := h.session.call (env.probe ip) (.probed name ip)
  unfold Controller.probeNode Session.probe
  rw [hprobe]
  generalize c.session.call (env.probe ip) (.probed name ip) = reply at hreached hsession ⊢
  generalize c'.session.call (env.probe ip) (.probed name ip) = reply' at hreached hsession ⊢
  obtain ⟨reached, s⟩ := reply
  obtain ⟨reached', s'⟩ := reply'
  obtain rfl : reached' = reached := hreached
  cases reached' with
  | true => exact ⟨rfl, h.registry, hsession⟩
  | false =>
    refine ⟨rfl, h.registry.modify name fun r r' hr => ?_, hsession⟩
    rw [hsession.now]
    exact hr.abandonAttempt s.now

theorem visitNew (h : Twins K start base base' c c') (node : Node) (ip : String)
    (hprobe : env'.probe = env.probe)
    (hfresh : ∀ n ≥ start, K (env.challenges n) (env'.challenges n)) :
    (c'.visitNew settings env' node ip).1 = (c.visitNew settings env node ip).1 ∧
      Twins K start base base' (c.visitNew settings env node ip).2
        (c'.visitNew settings env' node ip).2 := by
  unfold Controller.visitNew
  have henrolled : Twins K start base base' { c with registry := c.registry.enroll node.name ip }
      { c' with registry := c'.registry.enroll node.name ip } :=
    ⟨h.registry.enroll node.name ip, h.session⟩
  dsimp only
  split_ifs
  · exact ⟨rfl, henrolled.registry.modify node.name fun r r' hr => hr.markExempt, h.session⟩
  · exact (henrolled.beginAttempt node.name hfresh).probeNode node.name ip hprobe

/-- A visit of the same node does the same. -/
theorem visit (h : Twins K start base base' c c') (settings : Settings) (node : Node)
    (hprobe : env'.probe = env.probe)
    (hfresh : ∀ n ≥ start, K (env.challenges n) (env'.challenges n)) :
    (c'.visit settings env' node).1 = (c.visit settings env node).1 ∧
      Twins K start base base' (c.visit settings env node).2 (c'.visit settings env' node).2 := by
  unfold Controller.visit
  split_ifs
  · exact ⟨rfl, h⟩
  · have hrel := h.registry.get? node.name
    generalize c.registry.get? node.name = r? at hrel ⊢
    generalize c'.registry.get? node.name = r?' at hrel ⊢
    cases hrel with
    | some hr => exact h.visitKnown node.name hr hfresh
    | none =>
      cases node.internalIp? settings.internalIpAnnotation with
      | none => exact ⟨rfl, h⟩
      | some ip => exact h.visitNew node ip hprobe hfresh

end Controller.Twins

/-! ### Nodes that are put in

An entry that a scan ignores now it ignores for good, since nothing but a visit of its
own name could change that. -/

/-- The node is not ready, or its name has been verified. -/
def Registry.Ignores (g : Registry) (node : Node) : Prop :=
  node.isReady = false ∨ ∃ r, g.get? node.name = some r ∧ r.verified = true

/-- The second list is the first one with some members put in that have the property `p`. -/
inductive Inserted (p : Node → Prop) : List Node → List Node → Prop
  | nil : Inserted p [] []
  | keep (node : Node) {nodes nodes' : List Node} : Inserted p nodes nodes' →
      Inserted p (node :: nodes) (node :: nodes')
  | insert {node : Node} {nodes nodes' : List Node} : p node → Inserted p nodes nodes' →
      Inserted p nodes (node :: nodes')

namespace Controller

/-- A node that is not ready or has been verified is passed over without a change. -/
theorem visit_of_ignores (settings : Settings) (env : Environment ω)
    (h : c.registry.Ignores node) : c.visit settings env node = (false, c) := by
  unfold visit
  rcases h with hready | ⟨r, hr, hverified⟩
  · rw [hready]
    rfl
  · rw [hr]
    split_ifs
    · rfl
    · simp [visitKnown, hverified]

/-- What a visit passes over once, it passes over for good. -/
theorem ignores_visit (settings : Settings) (env : Environment ω) (node : Node) {other : Node}
    (h : c.registry.Ignores other) : (c.visit settings env node).2.registry.Ignores other := by
  rcases h with hready | ⟨r, hr, hverified⟩
  · exact .inl hready
  · obtain ⟨ch?, hr'⟩ := (visit_cases settings env c node).present hr
    exact .inr ⟨_, hr', hverified⟩

/-- The simulation: visits to nodes that are put in are steps of the second controller alone. -/
theorem Twins.visitAll (h : Twins K start base base' c c') (settings : Settings)
    (hprobe : env'.probe = env.probe)
    (hfresh : ∀ n ≥ start, K (env.challenges n) (env'.challenges n)) {p : Node → Prop}
    (hp : ∀ node, p node → c'.registry.Ignores node) (hinserted : Inserted p nodes nodes') :
    (Controller.visitAll settings env' c' nodes').1 = (Controller.visitAll settings env c nodes).1 ∧
      Twins K start base base' (Controller.visitAll settings env c nodes).2
        (Controller.visitAll settings env' c' nodes').2 := by
  induction hinserted generalizing c c' with
  | nil => exact ⟨rfl, h⟩
  -- Both visit the node, and both go on or both stop.
  | @keep node nodes nodes' hinserted ih =>
    obtain ⟨hfound, hvisited⟩ := h.visit settings node hprobe hfresh
    cases hc : (c.visit settings env node).1 with
    | true =>
      rw [visitAll_cons_of_found nodes hc, visitAll_cons_of_found nodes' (hfound.trans hc)]
      exact ⟨rfl, hvisited⟩
    | false =>
      rw [visitAll_cons_of_not_found nodes hc, visitAll_cons_of_not_found nodes' (hfound.trans hc)]
      exact ih hvisited fun other hother => ignores_visit settings env' node (hp other hother)
  | @insert node nodes nodes' hnode hinserted ih =>
    have hvisit := visit_of_ignores settings env' (hp node hnode)
    have hskipped : Controller.visitAll settings env' c' (node :: nodes') =
        Controller.visitAll settings env' c' nodes' := by
      rw [visitAll_cons_of_not_found nodes' (by rw [hvisit]), hvisit]
    rw [hskipped]
    exact ih h hp

end Controller

/-! ### Scans of two listings -/

/-- The environment with another listing, which is given as fast, and with other challenges. -/
def Environment.relisted (env : Environment ω) (nodes : List Node) (fresh : Nat → Challenge) :
    Environment ω :=
  { env with
    listNodes := fun now w => { env.listNodes now w with value := .ok nodes }
    challenges := fresh }

/-- To what a scan must look at, nothing has been added: nodes that it passes over have been put in
anywhere, and, if it finds a node in some beginning of the listing, any nodes behind that. -/
inductive Controller.Extends (settings : Settings) (env : Environment ω) (c : Controller ω) :
    List Node → List Node → Prop
  | within {nodes nodes' : List Node} : Inserted c.registry.Ignores nodes nodes' →
      Extends settings env c nodes nodes'
  | beyond {front front' back back' : List Node} : Inserted c.registry.Ignores front front' →
      (Controller.visitAll settings env { c with session := (c.session.listNodes env).2 } front).1 ≠
        none →
      Extends settings env c (front ++ back) (front' ++ back')

/-- The challenges are the same, or they were drawn at the same turn from `start` on. -/
def SameTurn (start : Nat) (fresh fresh' : Nat → Challenge) (ch ch' : Challenge) : Prop :=
  ch = ch' ∨ ∃ n ≥ start, ch = fresh n ∧ ch' = fresh' n

def Controller.listing (env : Environment ω) (c : Controller ω) (nodes : List Node) : Entry :=
  ⟨c.session.now, (c.session.listNodes env).2.now, .listed (.ok nodes)⟩

/-- The simulation for two listings of which one extends the other. -/
theorem Controller.Extends.twins {fresh : Nat → Challenge}
    (hextends : c.Extends settings env nodes nodes')
    (hlist : (c.session.listNodes env).1 = .ok nodes) (hK : ∀ ch, K ch ch)
    (hfresh : ∀ n ≥ c.session.drawn, K (env.challenges n) (fresh n)) :
    (c.scan settings (env.relisted nodes' fresh)).1 = (c.scan settings env).1 ∧
      Twins K c.session.drawn (c.session.log ++ [c.listing env nodes])
        (c.session.log ++ [c.listing env nodes']) (c.scan settings env).2
        (c.scan settings (env.relisted nodes' fresh)).2 := by
  let env' := env.relisted nodes' fresh
  have hprobe : env'.probe = env.probe := rfl
  let told : Controller ω := { c with session := (c.session.listNodes env).2 }
  let told' : Controller ω := { c with session := (c.session.listNodes env').2 }
  -- When the listing has been given the two controllers differ in nothing but its entry.
  have htwins : Twins K c.session.drawn (c.session.log ++ [c.listing env nodes])
      (c.session.log ++ [c.listing env nodes']) told told' := by
    refine ⟨.refl hK c.registry, rfl, rfl, rfl, ⟨[], ?_, ?_⟩, Nat.le_refl _⟩
    · rw [List.append_nil, Controller.listing, ← hlist]
      rfl
    · rw [List.append_nil]
      rfl
  have hlist' : (c.session.listNodes env').1 = .ok nodes' := rfl
  rw [scan_of_listed settings hlist, scan_of_listed settings hlist']
  cases hextends with
  | within hinserted =>
    obtain ⟨hfound, hend⟩ := htwins.visitAll settings hprobe hfresh (fun _ => id) hinserted
    exact ⟨congrArg Except.ok hfound, hend⟩
  -- The scans stop in front, and what is behind is never looked at.
  | @beyond front front' back back' hinserted hsome =>
    obtain ⟨hfound, hend⟩ := htwins.visitAll settings hprobe hfresh (fun _ => id) hinserted
    obtain ⟨name, hname⟩ := Option.ne_none_iff_exists'.mp hsome
    rw [visitAll_append_of_found back hname, visitAll_append_of_found back' (hfound.trans hname)]
    exact ⟨congrArg Except.ok hfound, hend⟩

/-- A scan depends only on what it must look at. From whatever state, with whatever environment:
with a listing that extends another one the same node is found, the same calls are made at the same
times after the listing, and the same is left behind, but for the challenges that were drawn; and
also these are the same if the environment draws the same. -/
theorem scan_of_extends (settings : Settings) (env : Environment ω) (c : Controller ω)
    {nodes nodes' : List Node} (fresh : Nat → Challenge)
    (hlist : (c.session.listNodes env).1 = .ok nodes)
    (hextends : c.Extends settings env nodes nodes') :
    let r := c.scan settings env
    let r' := c.scan settings (env.relisted nodes' fresh)
    r'.1 = r.1 ∧
      r.2.registry.Alike (SameTurn c.session.drawn env.challenges fresh) r'.2.registry ∧
      (fresh = env.challenges → r'.2.registry = r.2.registry) ∧
      r'.2.session.world = r.2.session.world ∧ r'.2.session.now = r.2.session.now ∧
      r'.2.session.drawn = r.2.session.drawn ∧
      ∃ es, r.2.session.log = c.session.log ++ c.listing env nodes :: es ∧
        r'.2.session.log = c.session.log ++ c.listing env nodes' :: es := by
  intro r r'
  -- The two scans go in step; where they draw, they draw from two sources.
  obtain ⟨hresult, halike, hsession⟩ := hextends.twins hlist
    (K := SameTurn c.session.drawn env.challenges fresh) (fun _ => .inl rfl)
    fun n hn => .inr ⟨n, hn, rfl, rfl⟩
  obtain ⟨es, hlog, hlog'⟩ := hsession.log
  refine ⟨hresult, halike, fun hsame => ?_, hsession.world, hsession.now, hsession.drawn, es,
    ?_, ?_⟩
  · -- With one source the relation between challenges is equality.
    have hequal : r.2.registry.Alike Eq r'.2.registry :=
      (hextends.twins hlist (fun _ => rfl) fun n _ => by rw [hsame]).2.registry
    exact hequal.eq
  · simpa using hlog
  · simpa using hlog'

/-! ### A listing with more nodes -/

def lastWorker : Node := { sampleWorker with name := "second" }

def startingWorker : Node := { lastWorker with conditions := [⟨"Ready", "False"⟩] }

/-- After the worker has been verified, the second one is found also behind it and behind an entry
of its own name that is not ready, and whatever comes after it. -/
theorem second_worker_found :
    let c := Controller.run sampleSettings sampleEnvironment (.new ()) [.scan, .cycle]
    let env := sampleEnvironment.relisted [lastWorker] .ofNumber
    let env' := env.relisted [sampleWorker, startingWorker, lastWorker, sampleWorker, lastWorker]
      .ofNumber
    (c.scan sampleSettings env).1 = .ok (some "second") ∧
      (c.scan sampleSettings env').1 = .ok (some "second") ∧
      (c.scan sampleSettings env').2.registry = (c.scan sampleSettings env).2.registry := by
  intro c env env'
  have hfound : (c.scan sampleSettings env).1 = .ok (some "second") := rfl
  have hverified : c.registry.Ignores sampleWorker := .inr ⟨_, get?_sampleWorker, rfl⟩
  have hextends : c.Extends sampleSettings env ([lastWorker] ++ [])
      ([sampleWorker, startingWorker, lastWorker] ++ [sampleWorker, lastWorker]) := by
    refine .beyond (.insert hverified (.insert (.inl rfl) (.keep _ .nil))) ?_
    decide +kernel
  obtain ⟨hresult, -, hregistry, -⟩ := scan_of_extends sampleSettings env c .ofNumber rfl hextends
  exact ⟨hfound, hresult.trans hfound, hregistry rfl⟩

end NodeAdmission.Admission
