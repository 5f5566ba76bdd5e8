import NodeAdmission.Proofs.Convergence
import NodeAdmission.Proofs.Effects

/-!
# The deadline of a probe

The deadline of a probe is its wait, once for every echo, and a second more. Any wait of whole
seconds is accepted from the variables of the server, also one with which the deadline leaves the
range of durations. Whether it does decides the fate of the control loop. A deadline in range never
breaks it down, and one that is out of range breaks it down at the first node to be probed.

* `deadline_eq_ok_iff`, `deadline_eq_error` — when there is a deadline, and which of the two
  operations overflows otherwise.
* `Config.read_pingWait` — of an accepted configuration it is known that the
  wait is of whole seconds.
* `answer_halted_iff`, `answers_halted_iff` — only a probe breaks the loop down. This is shown for
  one call, and for all the calls of a round by induction.
* `run_sameHalt` — with a deadline in range no run breaks down, be it of the
  loop or of the requests.
* `foldl_takeTurn_of_halted` — a loop that has broken down does nothing more, while
  requests are answered as before.
* `halted_iff_probe_overflows` — the main statement, with the bound on the two variables.

The bound comes out in whole seconds because both the wait and the range are multiples of a
second (`patience_of_secs`).
-/

namespace NodeAdmission

open Service (Host Lookup Traced)

/-! ### Durations -/

namespace Duration

variable {d e : Duration} {k : Nat}

theorem scale_eq_ok_iff : d.scale k = .ok e ↔ e.nanos = d.nanos * k := by
  unfold scale
  split
  · rename_i h
    exact ⟨fun he => by cases he; rfl, fun he => by cases e; cases he; rfl⟩
  · rename_i h
    refine ⟨nofun, fun he => absurd e.nanos_lt ?_⟩
    rwa [he]

theorem add_eq_ok_iff {f : Duration} : d.add e = .ok f ↔ f.nanos = d.nanos + e.nanos := by
  unfold add
  split
  · rename_i h
    exact ⟨fun hf => by cases hf; rfl, fun hf => by cases f; cases hf; rfl⟩
  · rename_i h
    refine ⟨nofun, fun hf => absurd f.nanos_lt ?_⟩
    rwa [hf]

end Duration

namespace Cluster.Probe

variable {p : Probe} {limit : Duration}

/-- The nanoseconds until the deadline: the wait for every echo, of which there is at least
one, and a second more. -/
def patience (p : Probe) : Nat := p.wait.nanos * max p.count.toNat 1 + nanosPerSecond

/-- The deadline is after the patience of the probe, if it has one. -/
theorem deadline_eq_ok_iff : p.deadline = .ok limit ↔ limit.nanos = p.patience := by
  unfold deadline patience
  cases hscale : p.wait.scale (max p.count.toNat 1) with
  | error e =>
    refine ⟨nofun, fun hlimit => ?_⟩
    -- The product is less than the limit, so it is a duration.
    have hlt : p.wait.nanos * max p.count.toNat 1 < durationBound := by
      have := limit.nanos_lt
      omega
    have hproduct : p.wait.scale (max p.count.toNat 1) = .ok ⟨_, hlt⟩ :=
      Duration.scale_eq_ok_iff.mpr rfl
    rw [hproduct] at hscale
    cases hscale
  -- The product is in range, and the sum decides.
  | ok d =>
    rw [← Duration.scale_eq_ok_iff.mp hscale]
    simpa using Duration.add_eq_ok_iff (e := .ofSecs 1)

theorem exists_deadline (h : p.patience < durationBound) :
    ∃ limit, p.deadline = .ok limit ∧ limit.nanos = p.patience :=
  ⟨⟨p.patience, h⟩, deadline_eq_ok_iff.mpr rfl, rfl⟩

/-- The product overflows if it can; only if the one more second is too much does the sum. -/
theorem deadline_eq_error (h : durationBound ≤ p.patience) :
    p.deadline = .error
      (if durationBound ≤ p.wait.nanos * max p.count.toNat 1 then .scaling else .adding) := by
  unfold deadline Duration.scale
  split_ifs with hscale hbound
  · omega
  · exact dif_neg (Nat.not_lt.mpr h)
  · rfl
  · omega

theorem patience_of_secs {s : UInt64} (h : p.wait = .ofSecs s) :
    p.patience = (s.toNat * max p.count.toNat 1 + 1) * nanosPerSecond := by
  rw [patience, h, Duration.nanos_ofSecs, Nat.add_mul, Nat.one_mul, Nat.mul_right_comm]

/-! ### Probing -/

variable {m : Type → Type} [Monad m]

/-- With a deadline a probe runs its program and concludes from what becomes of it. -/
theorem run_of_deadline [LawfulMonad m] (h : p.deadline = .ok limit) (runner : Subprocess.Runner m)
    (ip : String) :
    p.run runner ip =
      (fun outcome => .ok (conclude (outcome.within limit))) <$> runner (p.command ip) := by
  simp [run, h]

/-- Without a deadline nothing is run. -/
theorem run_of_overflow {e : Duration.Overflow} (h : p.deadline = .error e)
    (runner : Subprocess.Runner m) (ip : String) : p.run runner ip = pure (.error e) := by
  rw [run, h]

end Cluster.Probe

namespace Server

open Admission (Controller Entry Request)
open Service (SameHalt StaysHalted)

variable {config : Config} {host : Host ω} {e : Duration.Overflow} {limit : Duration}
  {es : List Entry} {now now' : Instant} {t t' : Traced ω}

/-! ### The variables -/

/-- The wait of an accepted configuration is of whole seconds. -/
theorem Config.read_pingWait {lookup : Lookup} (h : Config.read lookup = .ok config) :
    ∃ s, config.pingWait = .ofSecs s := by
  obtain ⟨labels, -, h⟩ := bind_eq_ok_iff.mp h
  obtain ⟨listenOn, -, h⟩ := bind_eq_ok_iff.mp h
  obtain ⟨agentPort, -, h⟩ := bind_eq_ok_iff.mp h
  obtain ⟨scanInterval, -, h⟩ := bind_eq_ok_iff.mp h
  obtain ⟨retryCooldown, -, h⟩ := bind_eq_ok_iff.mp h
  obtain ⟨bootstrapRetry, -, h⟩ := bind_eq_ok_iff.mp h
  obtain ⟨requestTimeout, -, h⟩ := bind_eq_ok_iff.mp h
  obtain ⟨commandTimeout, -, h⟩ := bind_eq_ok_iff.mp h
  obtain ⟨pingCount, -, h⟩ := bind_eq_ok_iff.mp h
  obtain ⟨pingWait, hwait, h⟩ := bind_eq_ok_iff.mp h
  obtain rfl := Except.ok.inj h
  -- All that matters of the variable is that its number is taken in seconds.
  cases hnumber : lookup.number Numeral.readUInt64 "PING_WAIT_SECS" "5" with
  | error e =>
    rw [Lookup.seconds, hnumber] at hwait
    cases hwait
  | ok s =>
    rw [Lookup.seconds, hnumber] at hwait
    exact ⟨s, (Except.ok.inj hwait).symm⟩

/-! ### One probe -/

theorem probeOrHalt_eq_map (h : config.probe.deadline = .ok limit) (host : Host ω) (ip : String) :
    probeOrHalt config host ip =
      (fun outcome => Cluster.Probe.conclude (outcome.within limit)) <$>
        loopRunner host (config.probe.command ip) := by
  simp [probeOrHalt, Cluster.Probe.run_of_deadline h]

/-- A probe with a deadline does not break the loop down. -/
theorem probeOrHalt_of_deadline (h : config.probe.deadline = .ok limit) (host : Host ω)
    (ip : String) : (probeOrHalt config host ip).Keeps SameHalt := by
  rw [probeOrHalt_eq_map h]
  exact (whileRunning_keeps _ (Service.observe_sameHalt _ _)).map _

/-- A probe without a deadline breaks the loop down and does nothing else. -/
theorem probeOrHalt_of_overflow (h : config.probe.deadline = .error e) (host : Host ω) (ip : String)
    (now : Instant) (t : Traced ω) :
    probeOrHalt config host ip now t = ⟨false, 0, { t with halted := true }⟩ := by
  rw [probeOrHalt, Cluster.Probe.run_of_overflow h]
  rfl

/-! ### The loop -/

/-- Only a probe breaks the loop down. -/
theorem answer_halted_iff (q : Request) (now : Instant) (t : Traced ω) :
    ((environment config host).answer q now t).world.halted = true ↔
      t.halted = true ∨ (∃ e, config.probe.deadline = .error e) ∧ q.isProbe = true := by
  have hkeeps : (∀ node ip, q = .probe node ip → (probeOrHalt config host ip).Keeps SameHalt) →
      ((environment config host).answer q now t).world.halted = t.halted := fun hprobe =>
    answer_keeps (fun _ => Service.observe_sameHalt _ _) (fun _ => Service.observe_sameHalt _ _)
      hprobe now t
  -- Every request but a probe leaves the loop alone, and so does a probe with a deadline.
  cases hdeadline : config.probe.deadline with
  | ok limit => simp [hkeeps fun _ ip _ => probeOrHalt_of_deadline hdeadline host ip]
  | error e =>
    cases q with
    | probe node ip =>
      have hprobe : ((environment config host).answer (.probe node ip) now t).world =
          (probeOrHalt config host ip now t).world := rfl
      simp [hprobe, probeOrHalt_of_overflow hdeadline, Request.isProbe]
    | _ => simp [hkeeps (by simp), Request.isProbe]

/-- Calls break the loop down if there is a probe among them that cannot have its deadline. -/
theorem answers_halted_iff (h : (environment config host).Answers now t es now' t') :
    t'.halted = true ↔
      t.halted = true ∨ (∃ e, config.probe.deadline = .error e) ∧ Admission.probes es ≠ [] := by
  induction es generalizing now t with
  | nil =>
    obtain ⟨-, rfl⟩ := h
    simp [Admission.probes, Admission.requests]
  | cons e es ih =>
    rw [ih h.2, answer_halted_iff]
    -- One more call is one more probe, or none.
    have hcons : Admission.probes (e :: es) =
        if e.event.request.isProbe then e.event.request :: Admission.probes es
        else Admission.probes es := by
      simp [Admission.probes, Admission.requests, List.filter_cons]
    rw [hcons]
    split_ifs with hprobe
    · simp only [hprobe, and_true, ne_eq, reduceCtorEq, not_false_eq_true, or_assoc]
      tauto
    · simp [hprobe]

/-- A round breaks the loop down if it probes somebody and there is no deadline. -/
theorem round_halted_iff (config : Config) (host : Host ω) (c : Controller (Traced ω)) :
    ∃ es, c.session.Calls (environment config host) es
        (c.round config.settings (environment config host)).session ∧
      ((c.round config.settings (environment config host)).session.world.halted = true ↔
        c.session.world.halted = true ∨
          (∃ e, config.probe.deadline = .error e) ∧ Admission.probes es ≠ []) := by
  rw [Controller.round_eq_run]
  exact ⟨_, c.run_calls _ _ _, answers_halted_iff (c.run_calls _ _ _).answers⟩

/-- A deadline that is in the range of durations never breaks the loop down. -/
theorem run_sameHalt (h : config.probe.deadline = .ok limit) (host : Host ω) (budget : Nat)
    (turns : List Turn) : (run config host budget turns).Keeps SameHalt := by
  have hlog : ∀ line, (Service.log line).Keeps (SameHalt (ω := ω)) := fun line =>
    Service.note_sameHalt _
  have hsend : ∀ request, (host.send request).Keeps SameHalt := fun request =>
    Service.observe_sameHalt _ _
  have hregister : ∀ crypto : Crypto.Client, ∀ client,
      ((host.registrar crypto).register client).Keeps SameHalt := fun crypto client =>
    (hlog _).bind fun _ => (crypto.register client).perform_keeps hsend
  -- The lines of the start, the registration, the listening and the turns, one after the other.
  refine (hlog _).bind fun _ => (hlog _).bind fun _ => (hlog _).bind fun _ =>
    (hlog _).bind fun _ => ?_
  refine (Service.registerFrom_keeps (hregister _) .sleep hlog _ _ _ budget).bind
    fun registered => ?_
  cases registered with
  | none => exact .pure _
  | some attempts =>
    refine Timed.Keeps.bind (Service.observe_sameHalt _ _) fun bound => ?_
    cases bound with
    | error e => exact .pure _
    | ok _ =>
      have hturns : (takeTurns config host turns).Keeps SameHalt :=
        takeTurns_keeps hsend (fun _ => Service.observe_sameHalt _ _)
          (probeOrHalt_of_deadline h host) (fun _ _ => Service.note_sameHalt _) turns
      exact hturns.bind fun _ => (hlog _).bind fun _ => .pure _

/-! ### After the loop has broken down -/

def Turn.request? : Turn → Option Http.Incoming
  | .round => none
  | .request r => some r

def answered? : Service.Action → Option Http.Incoming
  | .answered request _ => some request
  | .logged _ => none
  | .sent _ _ => none
  | .ran _ _ => none
  | .listened _ _ => none

/-- In some turns every request is answered and nothing is done besides: the control loop stands
still. -/
structure OnlyAnswers (c : Controller (Traced ω)) (turns : List Turn) (c' : Controller (Traced ω)) :
    Prop where
  registry : c'.registry = c.registry
  log : c'.session.log = c.session.log
  halted : c'.session.world.halted = true
  answered : ∃ actions, c'.session.world.trace = c.session.world.trace ++ actions ∧
    actions.filterMap answered? = turns.filterMap Turn.request?

/-- A request is answered once, and the loop is not touched by that. -/
theorem answer_answered (config : Config) (host : Host ω) (request : Http.Incoming) (now : Instant)
    (t : Traced ω) :
    let r := Host.answer (statusInterface (lister config host)) request now t
    SameHalt t r.world ∧
      ∃ actions, r.world.trace = t.trace ++ actions ∧ actions.filterMap answered? = [request] := by
  intro r
  let respond := (statusInterface (lister config host)).respond request
  have hsame : respond.Keeps SameHalt := respond_keeps request fun _ => Service.observe_sameHalt _ _
  have hadds : respond.Keeps (Service.Adds fun action => answered? action = none) :=
    respond_keeps request fun _ => Service.observe_adds fun _ => rfl
  obtain ⟨actions, htrace, hnone⟩ := hadds now t
  refine ⟨hsame now t, actions ++ [.answered request (respond now t).value], ?_, ?_⟩
  · rw [← List.append_assoc, ← htrace]
    rfl
  · rw [List.filterMap_append, List.filterMap_eq_nil_iff.mpr hnone]
    rfl

/-- After the loop has broken down, turns answer requests and do nothing else. -/
theorem foldl_takeTurn_of_halted (config : Config) (host : Host ω) (c : Controller (Traced ω))
    (turns : List Turn) (h : c.session.world.halted = true) :
    OnlyAnswers c turns (turns.foldl (takeTurn config host) c) := by
  induction turns generalizing c with
  | nil => exact ⟨rfl, rfl, h, [], by simp⟩
  | cons turn turns ih =>
    cases turn with
    | round =>
      -- The loop has been given up, so its turn is nobody's.
      have hround : takeTurn config host c .round = c := if_pos h
      rw [List.foldl_cons, hround]
      exact ⟨(ih c h).registry, (ih c h).log, (ih c h).halted, (ih c h).answered⟩
    | request r =>
      obtain ⟨hsame, actions, htrace, hactions⟩ :=
        answer_answered config host r c.session.now c.session.world
      obtain ⟨hregistry, hlog, hhalted, later, hlater, hanswered⟩ :=
        ih (takeTurn config host c (.request r)) (hsame.staysHalted h)
      refine ⟨hregistry, hlog, hhalted, actions ++ later, ?_, ?_⟩
      · rw [List.foldl_cons, hlater, ← List.append_assoc, ← htrace]
        rfl
      · rw [List.filterMap_append, hactions, hanswered]
        rfl

/-! ### Accepted configurations -/

/-- A configuration that is accepted decides by the deadline of its probe alone whether its control
loop can break down. Up to 2^64 - 1 seconds the deadline is what it should be, every probe tells
whether the node was reached, and no run breaks down. Beyond that every probe fails without running
anything, the loop breaks down in the round of its first probe, and requests are still answered
while it stands still. -/
theorem halted_iff_probe_overflows {lookup : Lookup} (h : Config.read lookup = .ok config) :
    let waits := config.pingWait.secs * max config.pingCount.toNat 1
    (waits + 1 < 2 ^ 64 →
      (∃ limit, config.probe.deadline = .ok limit ∧ limit.nanos = (waits + 1) * nanosPerSecond) ∧
      (∀ (m : Type → Type) [Monad m] [LawfulMonad m] (runner : Subprocess.Runner m) (ip : String),
        ∃ reached : m Bool, config.probe.run runner ip = Except.ok <$> reached) ∧
      ∀ (ω : Type) (host : Host ω) (budget : Nat) (turns : List Turn) (now : Instant)
        (t : Traced ω),
        (run config host budget turns now t).world.halted = t.halted) ∧
    (2 ^ 64 ≤ waits + 1 →
      let overflow := if 2 ^ 64 ≤ waits then .scaling else .adding
      config.probe.deadline = .error overflow ∧
      (∀ (m : Type → Type) [Monad m] (runner : Subprocess.Runner m) (ip : String),
        config.probe.run runner ip = pure (.error overflow)) ∧
      ∀ (ω : Type) (host : Host ω) (c : Controller (Traced ω)),
        let env := environment config host
        (c.session.world.halted = false →
          ∃ es, c.session.Calls env es (c.round config.settings env).session ∧
            ((c.round config.settings env).session.world.halted = true ↔
              Admission.probes es ≠ [])) ∧
        (c.session.world.halted = true →
          ∀ turns, OnlyAnswers c turns (turns.foldl (takeTurn config host) c))) := by
  intro waits
  obtain ⟨s, hs⟩ := Config.read_pingWait h
  have hwaits : waits = s.toNat * max config.probe.count.toNat 1 := by
    simp [waits, hs, Config.probe]
  have hpatience : config.probe.patience = (waits + 1) * nanosPerSecond := by
    rw [hwaits, Cluster.Probe.patience_of_secs hs]
  -- Both sides are multiples of a second.
  have hbound : durationBound = 2 ^ 64 * nanosPerSecond := by
    simp [durationBound, Nat.pow_eq]
  have hpos : 0 < nanosPerSecond := by decide
  constructor
  · intro hlt
    have hrange : config.probe.patience < durationBound := by
      rw [hpatience, hbound]
      exact Nat.mul_lt_mul_of_pos_right hlt hpos
    obtain ⟨limit, hdeadline, hlimit⟩ := Cluster.Probe.exists_deadline hrange
    refine ⟨⟨limit, hdeadline, by rw [hlimit, hpatience]⟩, ?_, ?_⟩
    · intro m _ _ runner ip
      refine ⟨(fun outcome => Cluster.Probe.conclude (outcome.within limit)) <$>
        runner (config.probe.command ip), ?_⟩
      rw [Cluster.Probe.run_of_deadline hdeadline, Functor.map_map]
    · intro ω host budget turns now t
      exact run_sameHalt hdeadline host budget turns now t
  · intro hle overflow
    have hdeadline : config.probe.deadline = .error overflow := by
      have hout : durationBound ≤ config.probe.patience := by
        rw [hpatience, hbound]
        exact Nat.mul_le_mul_right _ hle
      have hproduct : config.probe.wait.nanos * max config.probe.count.toNat 1 =
          waits * nanosPerSecond := by
        rw [show config.probe.wait = .ofSecs s from hs, hwaits, Duration.nanos_ofSecs,
          Nat.mul_right_comm]
      rw [Cluster.Probe.deadline_eq_error hout, hproduct, hbound]
      simp only [Nat.mul_le_mul_right_iff hpos, overflow]
    refine ⟨hdeadline, ?_, ?_⟩
    · intro m _ runner ip
      exact Cluster.Probe.run_of_overflow hdeadline runner ip
    · intro ω host c
      constructor
      · intro hrunning
        obtain ⟨es, hcalls, hiff⟩ := round_halted_iff config host c
        refine ⟨es, hcalls, ?_⟩
        rw [hiff]
        simp [hrunning, hdeadline]
      · intro hhalted turns
        exact foldl_takeTurn_of_halted config host c turns hhalted

/-! ### The longest wait -/

/-- Variables that ask for the longest wait, and name a service that has no name to be looked up. -/
def patientVariables : Lookup := fun key =>
  if key = "PING_WAIT_SECS" then some "18446744073709551615"
  else if key = "CRYPTO_URL" then some "http://[::1]:8300"
  else none

theorem exists_read_of_checked {lookup : Lookup} {p : Config → Prop}
    (hsome : (Config.read lookup).toOption.isSome = true)
    (hchecked : ∀ config ∈ (Config.read lookup).toOption, p config) :
    ∃ config, Config.read lookup = .ok config ∧ p config := by
  cases hread : Config.read lookup with
  | error e =>
    rw [hread] at hsome
    cases hsome
  | ok config =>
    rw [hread] at hchecked
    exact ⟨config, rfl, hchecked config rfl⟩

/-- With the defaults the deadline is after 21 seconds, and no run breaks down. With the longest
wait no probe runs anything. -/
theorem default_deadline_in_range :
    (∃ config, Config.read (fun _ => none) = .ok config ∧
      (∃ limit, config.probe.deadline = .ok limit ∧ limit.nanos = 21 * nanosPerSecond) ∧
      ∀ (host : Host Unit) (budget : Nat) (turns : List Turn),
        (run config host budget turns 0 { world := () }).world.halted = false) ∧
    ∃ config, Config.read patientVariables = .ok config ∧
      ∀ (runner : Subprocess.Runner (Timed Unit)) (ip : String),
        config.probe.run runner ip = pure (.error .scaling) := by
  constructor
  · obtain ⟨config, hread, hwait, hcount⟩ : ∃ config, Config.read (fun _ => none) = .ok config ∧
        config.pingWait.secs = 5 ∧ config.pingCount = 4 :=
      exists_read_of_checked (by decide +kernel) (by decide +kernel)
    -- Four replies of five seconds and the slack are within the range.
    have hdecides := (halted_iff_probe_overflows hread).1
    rw [hwait, hcount] at hdecides
    obtain ⟨hdeadline, -, hruns⟩ := hdecides (by decide)
    exact ⟨config, hread, hdeadline, fun host budget turns => hruns Unit host budget turns 0 _⟩
  · obtain ⟨config, hread, hwait, hcount⟩ : ∃ config, Config.read patientVariables = .ok config ∧
        config.pingWait.secs = 2 ^ 64 - 1 ∧ config.pingCount = 4 :=
      exists_read_of_checked (by decide +kernel) (by decide +kernel)
    -- Four times the longest wait is not.
    have hdecides := (halted_iff_probe_overflows hread).2
    rw [hwait, hcount] at hdecides
    exact ⟨config, hread, (hdecides (by decide)).2.1 (Timed Unit)⟩

def workerListing : Json :=
  .obj [("items", .arr [.obj [
    ("metadata", .obj [("name", .str "worker")]),
    ("status", .obj [
      ("conditions", .arr [.obj [("type", .str "Ready"), ("status", .str "True")]]),
      ("addresses", .arr [.obj [("type", .str "InternalIP"), ("address", .str "10.0.0.7")]])])]])]

/-- A host on which every request succeeds and every command lists the worker. -/
def listingHost : Host Unit where
  exchange _ := pure (.answered ⟨200, [], true⟩)
  runner _ := pure (.ended 0 ⟨.exited 0, workerListing.bytes, []⟩)
  listen _ := pure (.ok ())
  challenges := .ofNumber

def programs (trace : List Service.Action) : List String :=
  trace.filterMap fun
    | .ran command _ => some command.program
    | _ => none

/-- With the longest wait the configuration is accepted, and the first round breaks the loop down.
No `ping` is run, and the request after it is answered. -/
theorem longest_wait_breaks_loop :
    let request : Http.Incoming := ⟨"GET", "/version", [], []⟩
    ∃ config, Config.read patientVariables = .ok config ∧
      config.probe.deadline = .error .scaling ∧
      let r := run config listingHost 1 [.round, .request request, .round] 0 { world := () }
      r.value = .stopped ∧ r.world.halted = true ∧ programs r.world.trace = ["kubectl"] ∧
        r.world.trace.filterMap answered? = [request] :=
  exists_read_of_checked (by decide +kernel) (by decide +kernel)

end Server
end NodeAdmission
