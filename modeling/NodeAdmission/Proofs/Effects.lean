import Mathlib.Order.Defs.Unbundled
import NodeAdmission.Proofs.Exchange
import NodeAdmission.Proofs.Pace
import NodeAdmission.Server.Service

/-!
# What actions do to the world

A service touches its world through its host alone. So a change that every action of the host
respects is respected by all that is built on them, and nothing has to be known about the order of
the actions or their results.

* `Timed.Keeps` — an action leads from a world only to worlds that a relation allows.
  If the relation is reflexive and transitive then this is kept by `pure` and `bind`,
  and so by every program.
* `Http.Call.perform_keeps`, `Cluster.Kubectl.run_keeps`, `Http.Interface.respond_keeps` — calls,
  commands and the answers to requests.
* `Server.takeTurns_keeps` — the control loop and the requests in between, turn after turn.
* `Service.Adds`, `Service.SameHalt` — two such relations: that nothing is taken back of what is
  written down, and that the control loop does not break down.

`Timed.Logs` says more. It says what is added to a log and what comes of the action, and so it has
to be followed step by step.
-/

namespace NodeAdmission

open Service (Host Traced)

variable {ω α β : Type} {R : ω → ω → Prop}

/-- Whatever comes of the action, it leads from a world to one that `R` allows. -/
def Timed.Keeps (R : ω → ω → Prop) (x : Timed ω α) : Prop := ∀ now w, R w (x now w).world

/-! ### Actions one after another -/

section

variable [Std.Refl R]

theorem Timed.Keeps.pure (a : α) : Keeps R (Pure.pure a) := fun _ w => refl_of R w

theorem Timed.Keeps.sleep (interval : Duration) : Keeps R (Timed.sleep interval) :=
  fun _ w => refl_of R w

end

theorem Timed.Keeps.map {x : Timed ω α} (hx : Keeps R x) (f : α → β) : Keeps R (f <$> x) := hx

/-- What is respected by two actions is respected by the one after the other. -/
theorem Timed.Keeps.bind [IsTrans ω R] {x : Timed ω α} {f : α → Timed ω β} (hx : Keeps R x)
    (hf : ∀ a, Keeps R (f a)) : Keeps R (x >>= f) := by
  intro now w
  exact trans_of R (hx now w) (hf _ _ _)

/-! ### Actions that are written down -/

section

variable {δ : Type} {log : ω → List δ} {x : Timed ω α} {P : List δ → α → Prop}

/-- What the action adds to a log in its world, and what comes of it. -/
def Timed.Logs (log : ω → List δ) (x : Timed ω α) (P : List δ → α → Prop) : Prop :=
  ∀ now w, ∃ entries, log (x now w).world = log w ++ entries ∧ P entries (x now w).value

theorem Timed.Logs.mono {Q : List δ → α → Prop} (hx : x.Logs log P)
    (h : ∀ entries a, P entries a → Q entries a) : x.Logs log Q := by
  intro now w
  obtain ⟨entries, hlog, hP⟩ := hx now w
  exact ⟨entries, hlog, h _ _ hP⟩

theorem Timed.Logs.pure {a : α} (h : P [] a) : Timed.Logs log (Pure.pure a) P :=
  fun _ w => ⟨[], (List.append_nil (log w)).symm, h⟩

/-- The entries of two actions, one after the other. -/
theorem Timed.Logs.bind {f : α → Timed ω β} {Q : List δ → β → Prop} (hx : x.Logs log P)
    (hf : ∀ entries a, P entries a → (f a).Logs log fun later b => Q (entries ++ later) b) :
    (x >>= f).Logs log Q := by
  intro now w
  obtain ⟨entries, hlog, hP⟩ := hx now w
  let r := x now w
  obtain ⟨later, hlater, hQ⟩ := hf entries r.value hP (now + r.elapsed) r.world
  refine ⟨entries ++ later, ?_, hQ⟩
  rw [← List.append_assoc, ← hlog]
  exact hlater

end

variable [Std.Refl R] [IsTrans ω R]

/-! ### Calls, commands and answers -/

/-- A call exchanges at most once. -/
theorem Http.Call.perform_keeps {exchange : Http.Exchange (Timed ω)} (call : Http.Call α)
    (hexchange : ∀ request, (exchange request).Keeps R) : (call.perform exchange).Keeps R := by
  unfold Http.Call.perform
  split
  · exact .pure _
  · exact (hexchange _).bind fun _ => .pure _

namespace Cluster.Kubectl

variable {runner : Subprocess.Runner (Timed ω)}

/-- A command is run once, and whatever it prints is only read. -/
theorem run_keeps (k : Kubectl) (args : List String) (hrun : ∀ command, (runner command).Keeps R) :
    (k.run runner args).Keeps R :=
  (hrun _).bind fun _ => .pure _

theorem listNodes_keeps (k : Kubectl) (hrun : ∀ command, (runner command).Keeps R) :
    (k.listNodes runner).Keeps R :=
  (k.run_keeps _ hrun).bind fun _ => .pure _

theorem apply_keeps (k : Kubectl) (step : Step) (node : String)
    (hrun : ∀ command, (runner command).Keeps R) : (k.apply runner step node).Keeps R :=
  (k.run_keeps _ hrun).bind fun _ => .pure _

theorem rawListing_keeps (k : Kubectl) (r : Resource)
    (hrun : ∀ command, (runner command).Keeps R) : (k.rawListing runner r).Keeps R :=
  (k.run_keeps _ hrun).bind fun _ => .pure _

end Cluster.Kubectl

/-- The handler of a route respects `R`, whatever is posted to it. -/
def Http.Route.Keeps (R : ω → ω → Prop) : Http.Route (Timed ω) → Prop
  | .get handler => handler.Keeps R
  | .post handler => ∀ body, (handler body).Keeps R

/-- A request runs at most the handler of its route. -/
theorem Http.Interface.serve_keeps {route : Http.Route (Timed ω)} (request : Http.Incoming)
    (hroute : route.Keeps R) : (Http.Interface.serve request route).Keeps R := by
  cases route with
  | get handler =>
    rw [Http.Interface.serve]
    split_ifs
    · exact hroute
    · exact Timed.Keeps.bind hroute fun _ => .pure _
    · exact .pure _
  | post handler =>
    rw [Http.Interface.serve]
    split_ifs
    · exact hroute _
    · exact .pure _

/-- Whatever is asked for, the answer is one of the routes, or there is none. -/
theorem Http.Interface.respond_keeps {routes : Http.Interface (Timed ω)} (request : Http.Incoming)
    (hroutes : ∀ route ∈ routes, route.2.Keeps R) : (routes.respond request).Keeps R := by
  unfold Http.Interface.respond
  cases hroute : routes.route? (Http.pathOf request.target) with
  | none => exact .pure _
  | some route =>
    have hmem : (Http.pathOf request.target, route) ∈ routes := mem_of_route? hroute
    exact serve_keeps request (hroutes _ hmem)

theorem Server.statusInterface_keeps {list : Server.Lister (Timed ω)}
    (hlist : ∀ r, (list r).Keeps R) :
    ∀ route ∈ Server.statusInterface list, route.2.Keeps R := by
  simp only [Server.statusInterface, List.forall_mem_cons, List.not_mem_nil, false_imp_iff,
    implies_true, and_true]
  exact ⟨.pure _, .pure _, (hlist _).bind fun _ => .pure _, (hlist _).bind fun _ => .pure _⟩

/-! ### The control loop -/

section

variable {env : Admission.Environment ω} {exchange : Http.Exchange (Timed ω)}
    {agents : Agent.Client}
  {crypto : Crypto.Client}

/-- Peers that are reached by calls do what the calls do. -/
theorem Admission.Environment.answer_keeps (hpeers : env.toPeers = .overHttp exchange agents crypto)
    (hexchange : ∀ request, (exchange request).Keeps R) (hlist : env.listNodes.Keeps R)
    (happly : ∀ step node, (env.apply step node).Keeps R) {q : Request}
    (hprobe : ∀ node ip, q = .probe node ip → (env.probe ip).Keeps R) : (env.answer q).Keeps R := by
  cases q with
  | list => exact hlist.map _
  | apply step node => exact (happly step node).map _
  | probe node ip => exact (hprobe node ip rfl).map _
  -- Agents and the crypto service are reached by calls.
  | version node ip =>
    simp only [answer, hpeers, Peers.overHttp]
    exact ((agents.version ip).perform_keeps hexchange).map _
  | encrypt node ip challenge =>
    simp only [answer, hpeers, Peers.overHttp]
    exact ((agents.encrypt ip challenge).perform_keeps hexchange).map _
  | register client =>
    simp only [answer, hpeers, Peers.overHttp]
    exact ((crypto.register client).perform_keeps hexchange).map _
  | decrypt client key ciphertext =>
    simp only [answer, hpeers, Peers.overHttp]
    exact ((crypto.decrypt client key ciphertext).perform_keeps hexchange).map _
  | sleep interval => exact (Timed.Keeps.sleep interval).map _

/-- So do calls in a row. -/
theorem Admission.Environment.Answers.keeps {es : List Admission.Entry} {now now' : Instant}
    {w w' : ω}
    (h : env.Answers now w es now' w') (hkeeps : ∀ e ∈ es, (env.answer e.event.request).Keeps R) :
    R w w' := by
  induction es generalizing now w with
  | nil =>
    obtain ⟨-, rfl⟩ := h
    exact refl_of R _
  | cons e es ih =>
    obtain ⟨hkeeps, hlater⟩ := List.forall_mem_cons.mp hkeeps
    exact trans_of R (hkeeps now w) (ih h.2 hlater)

end

/-- Registering, however many attempts it takes. -/
theorem Service.registerFrom_keeps {registrar : Service.Registrar (Timed ω)}
    (hregister : ∀ client, (registrar.register client).Keeps R)
    (hsleep : ∀ retry, (registrar.sleep retry).Keeps R)
    (hlog : ∀ line, (registrar.log line).Keeps R)
    (client : String) (retry : Duration) (failures : UInt32) (budget : Nat) :
    (Service.registerFrom registrar client retry failures budget).Keeps R := by
  induction budget generalizing failures with
  | zero => exact .pure _
  | succ budget ih =>
    refine (hregister client).bind fun result => ?_
    cases result with
    | ok _ => exact (hlog _).bind fun _ => .pure _
    | error e => exact (hlog _).bind fun _ => (hsleep retry).bind fun _ => ih _

/-! ### Changes of a traced world

The relations on worlds with a trace, and what the parts of the server have to do with any such
relation. A probe is left to a hypothesis, for it is the one action that may halt the loop. -/

namespace Service

/-- Nothing is taken back of what is written down, and all that is added to it is allowed. -/
def Adds (allowed : Action → Prop) (t t' : Traced ω) : Prop :=
  ∃ actions, t'.trace = t.trace ++ actions ∧ ∀ action ∈ actions, allowed action

def SameHalt (t t' : Traced ω) : Prop := t'.halted = t.halted

def StaysHalted (t t' : Traced ω) : Prop := t.halted = true → t'.halted = true

variable {allowed : Action → Prop}

instance : Std.Refl (Adds (ω := ω) allowed) := ⟨fun _ => ⟨[], by simp⟩⟩

instance : IsTrans (Traced ω) (Adds allowed) where
  trans := by
    rintro t t' t'' ⟨actions, htrace, hallowed⟩ ⟨actions', htrace', hallowed'⟩
    refine ⟨actions ++ actions', ?_, List.forall_mem_append.mpr ⟨hallowed, hallowed'⟩⟩
    rw [htrace', htrace, List.append_assoc]

instance : Std.Refl (SameHalt (ω := ω)) := ⟨fun _ => rfl⟩

instance : IsTrans (Traced ω) SameHalt := ⟨fun _ _ _ h h' => h'.trans h⟩

theorem SameHalt.staysHalted {t t' : Traced ω} (h : SameHalt t t') : StaysHalted t t' :=
  fun ht => h.trans ht

theorem observe_adds {act : Timed ω α} {action : α → Action} (h : ∀ a, allowed (action a)) :
    (observe act action).Keeps (Adds allowed) :=
  fun _ _ => ⟨[_], rfl, by simp [h]⟩

theorem note_adds {action : Action} (h : allowed action) :
    (note action).Keeps (Adds (ω := ω) allowed) :=
  fun _ _ => ⟨[action], rfl, by simp [h]⟩

theorem observe_sameHalt (act : Timed ω α) (action : α → Action) :
    (observe act action).Keeps SameHalt := fun _ _ => rfl

theorem note_sameHalt (action : Action) : (note action).Keeps (SameHalt (ω := ω)) := fun _ _ => rfl

end Service

namespace Server

variable {R : Traced ω → Traced ω → Prop} [Std.Refl R] {config : Config} {host : Host ω}

/-- What is done only while the loop runs may also be left undone. -/
theorem whileRunning_keeps {act : Timed (Traced ω) α} (otherwise : α) (hact : act.Keeps R) :
    (whileRunning otherwise act).Keeps R := by
  intro now t
  unfold whileRunning
  split
  · exact refl_of R _
  · exact hact now t

variable [IsTrans (Traced ω) R]

/-- What the control loop does in answer to a request, the probe of a node apart. -/
theorem answer_keeps (hsend : ∀ request, (host.send request).Keeps R)
    (hrun : ∀ command, (host.run command).Keeps R) {q : Admission.Request}
    (hprobe : ∀ node ip, q = .probe node ip → (probeOrHalt config host ip).Keeps R) :
    ((environment config host).answer q).Keeps R := by
  have hrunner : ∀ command, (loopRunner host command).Keeps R := fun command =>
    whileRunning_keeps _ (hrun command)
  have hpeers : (environment config host).toPeers = .overHttp (loopExchange host)
      { port := config.agentPort, timeout := config.requestTimeout }
      (.new config.cryptoUrl config.requestTimeout) := rfl
  refine Admission.Environment.answer_keeps hpeers (fun request => ?_) ?_ (fun step node => ?_)
    hprobe
  · exact whileRunning_keeps _ (hsend request)
  · exact config.orchestrator.listNodes_keeps hrunner
  · exact config.orchestrator.apply_keeps step node hrunner

/-- The answer to a request for the status of the cluster. -/
theorem respond_keeps (request : Http.Incoming) (hrun : ∀ command, (host.run command).Keeps R) :
    ((statusInterface (lister config host)).respond request).Keeps R := by
  have hlist : ∀ r, (lister config host r).Keeps R := fun r =>
    (Cluster.Kubectl.rawListing_keeps _ r hrun).bind fun _ => .pure _
  exact Http.Interface.respond_keeps request (statusInterface_keeps hlist)

/-- A turn is a round of the loop or the answer to a request. -/
theorem takeTurn_keeps (hsend : ∀ request, (host.send request).Keeps R)
    (hrun : ∀ command, (host.run command).Keeps R)
    (hprobe : ∀ ip, (probeOrHalt config host ip).Keeps R)
    (hnote : ∀ request answer, (Service.note (.answered request answer)).Keeps R)
    (c : Admission.Controller (Traced ω)) (turn : Turn) :
    R c.session.world (takeTurn config host c turn).session.world := by
  cases turn with
  -- A loop that has broken down does nothing; otherwise the round is a run of the controller.
  | round =>
    rw [takeTurn]
    split_ifs
    · exact refl_of R _
    · rw [Admission.Controller.round_eq_run]
      exact (c.run_calls _ _ _).answers.keeps
        fun e _ => answer_keeps hsend hrun fun _ ip _ => hprobe ip
  | request r =>
    have hanswer : (Host.answer (statusInterface (lister config host)) r).Keeps R :=
      (respond_keeps r hrun).bind fun _ => hnote r _
    exact hanswer _ _

/-- What the server does in its turns, when it may also halt. -/
theorem takeTurns_keeps (hsend : ∀ request, (host.send request).Keeps R)
    (hrun : ∀ command, (host.run command).Keeps R)
    (hprobe : ∀ ip, (probeOrHalt config host ip).Keeps R)
    (hnote : ∀ request answer, (Service.note (.answered request answer)).Keeps R)
    (turns : List Turn) :
    (takeTurns config host turns).Keeps R := by
  intro now t
  let start : Admission.Controller (Traced ω) :=
    { registry := .empty, session := { world := t, now } }
  have hturns : ∀ c : Admission.Controller (Traced ω), R t c.session.world →
      R t (turns.foldl (takeTurn config host) c).session.world := by
    induction turns with
    | nil => exact fun c hc => hc
    | cons turn turns ih =>
      intro c hc
      exact ih _ (trans_of R hc (takeTurn_keeps hsend hrun hprobe hnote c turn))
  exact hturns start (refl_of R t)

end Server
end NodeAdmission
