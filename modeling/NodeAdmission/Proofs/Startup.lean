import NodeAdmission.Proofs.Deadline
import NodeAdmission.Proofs.Forwarding

/-!
# Starting up

Both services begin in the same way (`Service.launch`): they register the name of their client,
listen, and only then do what they are for. From this it follows what may happen before what, for
every configuration and whatever the host answers.

* `Service.Leaves` — what an action leaves in the trace, put together from what its parts leave.
* `Service.Prologue` — some actions that are log lines and attempts to register, of which one may
  have succeeded. `register_leaves` and `registerFrom_leaves` show it for one attempt and for all.
* `Service.Startup` — the three ways in which a service begins: it is never registered, or cannot
  listen, or does both and serves. `launch_leaves` shows that there are no others.
* `Service.StartsUp` — the order of things in the trace, which `Startup.startsUp`
  reads off these three ways.
* `Service.registers_before_acting` — the main statement, for the server and for the agent.

`StartsUp` speaks of the positions in the trace, by what is in front of an action. It does not
mention prologues, so that it can be read without knowing how a service is written.
-/

namespace NodeAdmission.Service

open Http (RemoteError)

variable {α β : Type} {x : Timed (Traced ω) α} {P Q : List Action → α → Prop}

/-! ### What actions leave in the trace -/

/-- What the action leaves in the trace, and what comes of it. -/
def Leaves (x : Timed (Traced ω) α) (P : List Action → α → Prop) : Prop :=
  ∀ now t, ∃ actions, (x now t).world.trace = t.trace ++ actions ∧ P actions (x now t).value

namespace Leaves

theorem mono (hx : Leaves x P) (h : ∀ actions a, P actions a → Q actions a) : Leaves x Q :=
  Timed.Logs.mono hx h

theorem pure {a : α} (h : P [] a) : Leaves (ω := ω) (Pure.pure a) P := by
  have hlogs : Timed.Logs Traced.trace (Pure.pure a : Timed (Traced ω) α) P := .pure h
  exact hlogs

/-- Two actions leave what the first leaves, and then what the second leaves. -/
theorem bind {f : α → Timed (Traced ω) β} {Q : List Action → β → Prop} (hx : Leaves x P)
    (hf : ∀ actions a, P actions a → Leaves (f a) fun later b => Q (actions ++ later) b) :
    Leaves (x >>= f) Q := Timed.Logs.bind hx hf

/-- An action that only adds what is allowed leaves only such actions. -/
theorem of_keeps {allowed : Action → Prop} (hx : x.Keeps (Adds allowed)) :
    Leaves x fun actions _ => ∀ action ∈ actions, allowed action := hx

theorem log (line : LogLine) :
    Leaves (ω := ω) (Service.log line) fun actions _ => actions = [.logged line] :=
  fun _ _ => ⟨_, rfl, rfl⟩

theorem observe (act : Timed ω α) (action : α → Action) :
    Leaves (observe act action) fun actions a => actions = [action a] :=
  fun _ _ => ⟨_, rfl, rfl⟩

theorem log_bind {f : Unit → Timed (Traced ω) α} {line : LogLine}
    (h : Leaves (f ()) fun later a => P (.logged line :: later) a) :
    Leaves (Service.log line >>= f) P := by
  refine (Leaves.log line).bind ?_
  rintro actions ⟨⟩ rfl
  exact h

end Leaves

/-! ### Kinds of actions -/

namespace Action

/-- Whatever is more than to write a log line. -/
def IsExternal (action : Action) : Prop := ∀ line, action ≠ .logged line

def IsListening (action : Action) : Prop := ∃ number result, action = .listened number result

def IsAttempt (crypto : Crypto.Client) (name : String) (action : Action) : Prop :=
  ∃ request reply, action = .sent request reply ∧
    Crypto.Asks crypto "/client" (.client name) request

def Registers (crypto : Crypto.Client) (name : String) (action : Action) : Prop :=
  ∃ request reply, action = .sent request reply ∧
    Crypto.Asks crypto "/client" (.client name) request ∧ reply.Succeeds

/-- What may come before the registration: log lines and attempts at it. -/
def Prepares (crypto : Crypto.Client) (name : String) (action : Action) : Prop :=
  action.IsExternal → action.IsAttempt crypto name

variable {crypto : Crypto.Client} {name : String} {action : Action} {line : LogLine}

theorem prepares_logged : (logged line).Prepares crypto name := fun h => absurd rfl (h line)

theorem not_registers_logged : ¬ (logged line).Registers crypto name := by
  rintro ⟨request, reply, h, -⟩
  cases h

theorem IsAttempt.prepares (h : action.IsAttempt crypto name) : action.Prepares crypto name :=
  fun _ => h

end Action

/-! ### Registering -/

section

variable {crypto : Crypto.Client} {name : String} {host : Host ω} {actions later : List Action}

/-- Some actions prepare the registration of a name, and `done` tells whether one of them achieves
it. -/
structure Prologue (crypto : Crypto.Client) (name : String) (actions : List Action) (done : Prop) :
    Prop where
  prepares : ∀ action ∈ actions, action.Prepares crypto name
  registers : done ↔ ∃ action ∈ actions, action.Registers crypto name

namespace Prologue

theorem nil : Prologue crypto name [] False := ⟨by simp, by simp⟩

theorem log_cons {p : Prop} {line : LogLine} (h : Prologue crypto name later p) :
    Prologue crypto name (.logged line :: later) p where
  prepares := List.forall_mem_cons.mpr ⟨Action.prepares_logged, h.prepares⟩
  registers := by simp [h.registers, Action.not_registers_logged]

/-- Two prologues make one, which achieves the registration if one of them does. -/
theorem append {p q : Prop} (h : Prologue crypto name actions p)
    (h' : Prologue crypto name later q) :
    Prologue crypto name (actions ++ later) (p ∨ q) where
  prepares := List.forall_mem_append.mpr ⟨h.prepares, h'.prepares⟩
  registers := by
    rw [h.registers, h'.registers]
    simp only [List.mem_append, or_and_right, exists_or]

end Prologue

/-- One attempt is a prologue, and it succeeds just if it registers. -/
theorem register_leaves (host : Host ω) (crypto : Crypto.Client) (name : String) :
    Leaves ((host.registrar crypto).register name) fun actions result =>
      Prologue crypto name actions (result = .ok ()) := by
  apply Leaves.log_bind
  intro now t
  obtain ⟨sent, htrace, hsends⟩ := (crypto.register name).perform_sends host now t
  refine ⟨sent, htrace, Prologue.log_cons ?_⟩
  generalize ((crypto.register name).perform host.send now t).value = result at hsends ⊢
  -- Nothing was sent, or the one request that asks for the registration.
  cases hsends with
  | unsendable hfailure => simpa using Prologue.nil
  | @sent url reply hurl hexchange =>
    have hasks : Crypto.Asks crypto "/client" (.client name) ((crypto.register name).request url) :=
      Crypto.Client.asks_call hurl
    refine ⟨List.forall_mem_singleton.mpr (Action.IsAttempt.prepares ⟨_, _, rfl, hasks⟩), ?_⟩
    rw [Http.Call.conclude_eq_ok_iff]
    constructor
    · rintro ⟨response, hreply, hstatus, -⟩
      exact ⟨_, List.mem_singleton_self _, _, _, rfl, hasks, response, hreply, hstatus⟩
    · rintro ⟨action, hmem, request, reply', rfl, -, response, hreply, hstatus⟩
      obtain ⟨-, rfl⟩ := Action.sent.inj (List.mem_singleton.mp hmem)
      exact ⟨response, hreply, hstatus, rfl⟩

/-- However many attempts it takes: they are all that is done, and the last
one succeeds if it does. -/
theorem registerFrom_leaves (host : Host ω) (crypto : Crypto.Client) (name : String)
    (retry : Duration) (failures : UInt32) (budget : Nat) :
    Leaves (registerFrom (host.registrar crypto) name retry failures budget)
      fun actions attempts? =>
      Prologue crypto name actions (attempts?.isSome = true) := by
  induction budget generalizing failures with
  | zero => exact .pure (by simpa using Prologue.nil)
  | succ budget ih =>
    refine (register_leaves host crypto name).bind fun actions result hregister => ?_
    cases result with
    | ok _ =>
      refine Leaves.log_bind (.pure ?_)
      simpa using hregister.append (.log_cons .nil)
    | error e =>
      refine Leaves.log_bind ?_
      have hsleep : Leaves (ω := ω) ((host.registrar crypto).sleep retry) fun actions _ =>
        actions = [] :=
        fun _ t => ⟨[], (List.append_nil t.trace).symm, rfl⟩
      refine hsleep.bind ?_
      rintro _ _ rfl
      -- The attempt that failed and those that come after the pause make one prologue.
      refine (ih (failures + 1)).mono fun later attempts? hlater => ?_
      simpa using hregister.append hlater.log_cons

/-! ### Launching -/

/-- How both services begin: with `serve` they do what they are for. -/
def launch (host : Host ω) (crypto : Crypto.Client) (name : String) (retry : Duration)
    (budget : Nat)
    (port : UInt16) (serve : Timed (Traced ω) Unit) : Timed (Traced ω) Ending := do
  match ← registerWithin (host.registrar crypto) name retry budget with
  | none => return .unregistered
  | some _ =>
    match ← host.bind port with
    | .error e => return .failed (.io e)
    | .ok _ =>
      serve
      return .stopped

/-- How a service begins, in its trace: with a prologue, and then, once it is registered, it
listens. If it cannot that is the end of it. -/
inductive Startup (crypto : Crypto.Client) (name : String) (port : UInt16) :
    List Action → Ending → Prop where
  | unregistered {actions : List Action} : Prologue crypto name actions False →
      Startup crypto name port actions .unregistered
  | unbound {actions : List Action} {e : OsError} : Prologue crypto name actions True →
      Startup crypto name port (actions ++ [.listened port (.error e)]) (.failed (.io e))
  | served {actions later : List Action} : Prologue crypto name actions True →
      (∀ action ∈ later, ¬ action.IsListening) →
      Startup crypto name port (actions ++ .listened port (.ok ()) :: later) .stopped

variable {port : UInt16} {ending : Ending}

/-- A launch is a startup, if serving does not listen again. -/
theorem launch_leaves (host : Host ω) (crypto : Crypto.Client) (name : String) (retry : Duration)
    (budget : Nat) (port : UInt16) {serve : Timed (Traced ω) Unit}
    (hserve : serve.Keeps (Adds fun action => ¬ action.IsListening)) :
    Leaves (launch host crypto name retry budget port serve) (Startup crypto name port) := by
  refine (registerFrom_leaves host crypto name retry 0 budget).bind fun actions attempts? h => ?_
  cases attempts? with
  | none => exact .pure (by simpa using Startup.unregistered (by simpa using h))
  | some attempts =>
    have hprologue : Prologue crypto name actions True := by simpa using h
    refine (Leaves.observe (host.listen port) (.listened port)).bind ?_
    rintro _ bound rfl
    cases bound with
    | error e => exact .pure (by simpa using Startup.unbound hprologue)
    | ok _ =>
      refine (Leaves.of_keeps hserve).bind fun later _ hlater => .pure ?_
      simpa using Startup.served hprologue hlater

/-- A log line in front makes no difference. -/
theorem Startup.log_cons {line : LogLine} (h : Startup crypto name port actions ending) :
    Startup crypto name port (.logged line :: actions) ending := by
  cases h with
  | unregistered hprologue => exact .unregistered hprologue.log_cons
  | unbound hprologue => exact .unbound hprologue.log_cons
  | served hprologue hlater => exact .served hprologue.log_cons hlater

/-! ### The order of things

What is in front of an action in the trace is either part of the prologue or contains all of it. The
cases of `append_cons_cases` are these two. -/

/-- What a service does that has to register a name and to listen at a port, in this order. -/
structure StartsUp (crypto : Crypto.Client) (name : String) (port : UInt16) (actions : List Action)
    (ending : Ending) : Prop where
  /-- Until the name is registered, all that is done outside are attempts to register it. -/
  registersFirst : ∀ earlier action later, actions = earlier ++ action :: later →
    action.IsExternal → (∀ a ∈ earlier, ¬ a.Registers crypto name) → action.IsAttempt crypto name
  /-- Until the service listens at its port, nothing else is done. -/
  listensFirst : ∀ earlier action later, actions = earlier ++ action :: later →
    action.IsExternal → action.IsAttempt crypto name ∨
      (∃ result, action = .listened port result) ∨ .listened port (.ok ()) ∈ earlier
  /-- If the service cannot listen, that is its error, and nothing follows. -/
  unbound : ∀ earlier number e later, actions = earlier ++ .listened number (.error e) :: later →
    ending = .failed (.io e) ∧ later = []
  /-- Only a service that is never registered ends without listening. -/
  registered : ending ≠ .unregistered → ∃ a ∈ actions, a.Registers crypto name

/-- What is done at some point of a prologue with something behind it is either part of the
prologue, or all of the prologue has been done before. -/
theorem append_cons_cases {actions rest earlier later : List Action} {action : Action}
    (h : actions ++ rest = earlier ++ action :: later) :
    action ∈ actions ∨
      ∃ between, earlier = actions ++ between ∧ rest = between ++ action :: later := by
  rcases List.append_eq_append_iff.mp h with ⟨between, rfl, hrest⟩ | ⟨between, rfl, hcons⟩
  · exact .inr ⟨between, rfl, hrest⟩
  · cases between with
    | nil => exact .inr ⟨[], by simp, by simpa using hcons.symm⟩
    | cons a between =>
      obtain ⟨rfl, -⟩ := List.cons.inj hcons
      exact .inl (by simp)

/-- Before the registration only attempts at it are made. -/
theorem Prologue.registersFirst {rest earlier later : List Action} {action : Action}
    (hprologue : Prologue crypto name actions True)
    (h : actions ++ rest = earlier ++ action :: later)
    (hexternal : action.IsExternal) (hnone : ∀ a ∈ earlier, ¬ a.Registers crypto name) :
    action.IsAttempt crypto name := by
  rcases append_cons_cases h with hmem | ⟨between, rfl, -⟩
  · exact hprologue.prepares action hmem hexternal
  · obtain ⟨a, hmem, hregisters⟩ := hprologue.registers.mp trivial
    exact absurd hregisters (hnone a (List.mem_append_left _ hmem))

theorem Prologue.not_listened {done : Prop} (h : Prologue crypto name actions done)
    (number : UInt16)
    (result : Except OsError Unit) : .listened number result ∉ actions := by
  intro hmem
  obtain ⟨request, reply, hsent, -⟩ := h.prepares _ hmem nofun
  cases hsent

/-- A service that has been registered listens, and goes on only if it can. -/
theorem Prologue.startsUp {result : Except OsError Unit}
    (hprologue : Prologue crypto name actions True)
    (hlater : ∀ action ∈ later, ¬ action.IsListening)
    (hbound : ∀ e, result = .error e → ending = .failed (.io e) ∧ later = []) :
    StartsUp crypto name port (actions ++ .listened port result :: later) ending := by
  refine ⟨fun _ _ _ h => hprologue.registersFirst h, ?_, ?_, fun _ => ?_⟩
  · intro earlier action after h hexternal
    rcases append_cons_cases h with hmem | ⟨between, rfl, hrest⟩
    · exact .inl (hprologue.prepares action hmem hexternal)
    · -- Behind the prologue the action is the listening itself or comes later.
      cases between with
      | nil =>
        obtain ⟨rfl, -⟩ := List.cons.inj hrest
        exact .inr (.inl ⟨_, rfl⟩)
      | cons a between =>
        obtain ⟨rfl, rfl⟩ := List.cons.inj hrest
        cases result with
        | error e => simp at hbound
        | ok _ => exact .inr (.inr (by simp))
  · -- Nobody listens in front of the one action or behind it.
    intro earlier number e after h
    rcases append_cons_cases h with hmem | ⟨between, rfl, hrest⟩
    · exact absurd hmem (hprologue.not_listened _ _)
    · cases between with
      | nil =>
        obtain ⟨haction, rfl⟩ := List.cons.inj hrest
        obtain ⟨-, rfl⟩ := Action.listened.inj haction
        exact hbound e rfl
      | cons a between =>
        obtain ⟨-, rfl⟩ := List.cons.inj hrest
        exact absurd ⟨_, _, rfl⟩ (hlater (.listened number (.error e)) (by simp))
  · -- The prologue has achieved the registration.
    obtain ⟨a, hmem, hregisters⟩ := hprologue.registers.mp trivial
    exact ⟨a, List.mem_append_left _ hmem, hregisters⟩

/-- The order of things, for each of the three ways to begin. -/
theorem Startup.startsUp (h : Startup crypto name port actions ending) :
    StartsUp crypto name port actions ending := by
  cases h with
  -- Everything is part of the prologue.
  | unregistered hprologue =>
    have hprepares : ∀ earlier action later, actions = earlier ++ action :: later →
        action.IsExternal → action.IsAttempt crypto name := by
      rintro earlier action later rfl
      exact hprologue.prepares action (by simp)
    refine ⟨fun _ _ _ h hexternal _ => hprepares _ _ _ h hexternal,
      fun _ _ _ h hexternal => .inl (hprepares _ _ _ h hexternal), ?_, nofun⟩
    rintro earlier number e later rfl
    exact absurd (by simp) (hprologue.not_listened number (.error e))
  | unbound hprologue =>
    refine hprologue.startsUp (by simp) fun e' he => ?_
    cases he
    exact ⟨rfl, rfl⟩
  | served hprologue hlater => exact hprologue.startsUp hlater nofun

end

end NodeAdmission.Service

namespace NodeAdmission

open Service (Action Adds Host Leaves Lookup Startup StartsUp Traced)

/-! ### The server -/

namespace Server

theorem probeOrHalt_adds {allowed : Action → Prop} (config : Config) (host : Host ω)
    (hran : ∀ command outcome, allowed (.ran command outcome)) (ip : String) :
    (probeOrHalt config host ip).Keeps (Adds allowed) := by
  cases hdeadline : config.probe.deadline with
  | ok limit =>
    rw [probeOrHalt_eq_map hdeadline]
    exact (whileRunning_keeps _ (Service.observe_adds (hran _))).map _
  | error e =>
    intro now t
    rw [probeOrHalt_of_overflow hdeadline]
    exact ⟨[], by simp⟩

/-- The server begins with a startup. -/
theorem run_leaves (config : Config) (host : Host ω) (budget : Nat) (turns : List Turn) :
    Leaves (run config host budget turns)
      (Startup (.new config.cryptoUrl config.requestTimeout) config.cryptoClientName
        config.listenOn) := by
  let crypto : Crypto.Client := .new config.cryptoUrl config.requestTimeout
  have hserve : Timed.Keeps (Adds fun action => ¬ action.IsListening) (do
      takeTurns config host turns
      Service.log (infoLine "Node authentication server stopped")) := by
    refine Timed.Keeps.bind (takeTurns_keeps ?_ ?_ ?_ ?_ turns) fun _ => Service.note_adds nofun
    · exact fun request => Service.observe_adds fun _ => nofun
    · exact fun command => Service.observe_adds fun _ => nofun
    · exact probeOrHalt_adds config host fun _ _ => nofun
    · exact fun _ _ => Service.note_adds nofun
  have hlaunch :=
    Service.launch_leaves host crypto config.cryptoClientName config.bootstrapRetry budget
    config.listenOn hserve
  refine .log_bind (.log_bind (.log_bind (.log_bind ?_)))
  exact hlaunch.mono fun actions ending h => h.log_cons.log_cons.log_cons.log_cons

end Server

/-! ### The agent -/

namespace Agent

/-- The agent adds to the trace what it sends. -/
theorem interface_adds {allowed : Action → Prop} (host : Host ω) (crypto : Crypto.Client)
    (identity : Identity) (hsent : ∀ request reply, allowed (.sent request reply)) :
    ∀ route ∈ interface (encryptor host crypto) identity, route.2.Keeps (Adds allowed) := by
  have hencrypt : ∀ client key message,
      (encryptor host crypto client key message).Keeps (Adds allowed) := fun client key message =>
    ((crypto.encrypt client key message).perform_keeps fun request =>
      Service.observe_adds (hsent request)).bind fun _ => .pure _
  have hposted : ∀ body,
      (encryptPosted (encryptor host crypto) identity body).Keeps (Adds allowed) := by
    intro body
    unfold encryptPosted
    split
    · exact .pure _
    · exact (hencrypt _ _ _).bind fun _ => .pure _
  simp only [interface, List.forall_mem_cons, List.not_mem_nil, false_imp_iff, implies_true,
    and_true]
  exact ⟨.pure _, .pure _, hposted⟩

theorem serve_adds {allowed : Action → Prop} {routes : Http.Interface (Timed (Traced ω))}
    (hroutes : ∀ route ∈ routes, route.2.Keeps (Adds allowed))
    (hanswered : ∀ request answer, allowed (.answered request answer))
    (requests : List Http.Incoming) :
    (serve routes requests).Keeps (Adds allowed) := by
  induction requests with
  | nil => exact .pure _
  | cons request requests ih =>
    have hanswer : (Host.answer routes request).Keeps (Adds allowed) :=
      (Http.Interface.respond_keeps request hroutes).bind fun _ =>
        Service.note_adds (hanswered request _)
    exact hanswer.bind fun _ => ih

/-- The agent begins with a startup. -/
theorem run_leaves (config : Config) (host : Host ω) (budget : Nat)
    (requests : List Http.Incoming) :
    Leaves (run config host budget requests)
      (Startup (.new config.cryptoUrl config.requestTimeout) config.cryptoClientName
        config.listenOn) := by
  let crypto : Crypto.Client := .new config.cryptoUrl config.requestTimeout
  let identity : Identity :=
    { clientName := config.cryptoClientName, keyName := config.encryptKeyName }
  have hserve : Timed.Keeps (Adds fun action => ¬ action.IsListening) (do
      serve (interface (encryptor host crypto) identity) requests
      Service.log (infoLine "Node authentication agent stopped")) := by
    refine Timed.Keeps.bind (serve_adds ?_ (fun _ _ => nofun) requests) fun _ =>
      Service.note_adds nofun
    exact interface_adds host crypto identity fun _ _ => nofun
  have hlaunch :=
    Service.launch_leaves host crypto config.cryptoClientName config.bootstrapRetry budget
    config.listenOn hserve
  refine .log_bind (.log_bind (.log_bind ?_))
  exact hlaunch.mono fun actions ending h => h.log_cons.log_cons.log_cons

end Agent

/-! ### Both services -/

namespace Service

variable {Config : Type} {config? : Except ServiceError Config} {e : ServiceError}

/-- A configuration that is rejected is reported, and nothing else is done. -/
theorem Program.run_rejected (p : Program) (service : Config → Timed (Traced ω) Ending)
    (h : config? = .error e) :
    Leaves (p.run config? service) fun actions ending =>
      (∀ action ∈ actions, ¬ action.IsExternal) ∧ ending = .failed e := by
  rw [h]
  refine Leaves.log_bind (.pure ⟨?_, rfl⟩)
  simp [Action.IsExternal]

/-- A host whose crypto service cannot be reached at first, and whose ports are all taken. -/
def busyHost : Host Nat where
  exchange _ := fun _ n => ⟨if n = 0 then .failed .connect else .answered ⟨200, [], true⟩, 0, n + 1⟩
  runner _ := pure .endless
  listen _ := pure (.error .addressInUse)
  challenges := .ofNumber

def replies (trace : List Action) : List Http.Reply :=
  trace.filterMap fun
    | .sent _ reply => some reply
    | _ => none

def portlessVariables : Lookup := fun key => if key = "PORT" then some "http" else none

end Service
end NodeAdmission
