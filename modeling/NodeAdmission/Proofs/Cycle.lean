import NodeAdmission.Proofs.Attempt
import NodeAdmission.Proofs.Expulsion
import NodeAdmission.Proofs.Scan

/-!
# Cycles

What a cycle of the control loop can come to. A cycle whose scan finds a node is a `Trial` of that
node, whose record is unverified and waits with a challenge; so the two guards of
`Controller.runCycle` for a missing record and a missing challenge are never taken.

* `Trial.of_found`, `Trial.eq` — a scan that finds a node makes a trial, and only one.
* `Trial.all_calls` — the calls of such a cycle: those of the scan, those of the verification, and
  changes to the cluster behind them.
* `Controller.runCycle_eq_attempt` — the guards are passed. This is the one place where
  `Controller.runCycle` is opened for a cycle with a trial.
* `Cycle`, `Controller.runCycle_cases` — the five ends of a cycle, each with everything that was
  done on the way, and that there are no others. Whatever is proved of cycles later is a case
  analysis on this relation.

A trial is a structure with data and not an existential statement: its result and the controller
after it are functions of it, which later statements mention by name.
-/

namespace NodeAdmission.Admission

/-! ### Trials

A cycle looks its node up again after the scan, and asks whether it waits with a challenge. Both are
part of what a trial is, so nothing has to be said later about nodes without a record. -/

/-- The node that a scan finds, as the scan leaves it. -/
structure Trial (settings : Settings) (env : Environment ω) (c : Controller ω) where
  node : String
  record : NodeRecord
  challenge : Challenge
  found : (c.scan settings env).1 = .ok (some node)
  recorded : (c.scan settings env).2.registry.get? node = some record
  unverified : record.verified = false
  pending : record.challenge? = some challenge

namespace Trial

variable {settings : Settings} {env : Environment ω} {c : Controller ω}

def result (t : Trial settings env c) : Except VerificationError Unit :=
  (verify env settings.identity t.record (c.scan settings env).2.session).1

def session (t : Trial settings env c) : Session ω :=
  (verify env settings.identity t.record (c.scan settings env).2.session).2.2

def after (t : Trial settings env c) : Controller ω where
  registry := (c.scan settings env).2.registry.modify t.node
    fun _ => t.record.afterExchange t.session.now t.result
  session := t.session

/-- The verification changes the record of its node, as its outcome says, and no other. -/
theorem after_puts (t : Trial settings env c) :
    (c.scan settings env).2.registry.Puts t.node
      (some (t.record.afterExchange t.session.now t.result)) t.after.registry :=
  Registry.puts_modify t.recorded _

/-- The scan before the verification. -/
theorem scan_calls (t : Trial settings env c) :
    ∃ es, c.session.Calls env es (c.scan settings env).2.session ∧
      Scan settings env c es (.ok (some t.node)) (c.scan settings env).2.registry := by
  rw [← t.found]
  exact c.scan_cases settings env

/-- The verification is an attempt on the pending challenge. -/
theorem calls (t : Trial settings env c) :
    ∃ es, (c.scan settings env).2.session.Calls env es t.session ∧
      Attempt settings.identity t.record t.challenge (events es) t.result :=
  verify_attempt env settings.identity t.pending _

/-- A verification does not fail for want of a challenge. -/
theorem result_ne_noPendingChallenge (t : Trial settings env c) :
    t.result ≠ .error .noPendingChallenge := by
  obtain ⟨es, -, body, ⟨-, hdecided⟩, -⟩ := t.calls
  rw [hdecided]
  exact attemptResult_ne_noPendingChallenge _ _

theorem eq (t u : Trial settings env c) : t = u := by
  obtain ⟨n, r, ch, hfound, hr, -, hch⟩ := t
  obtain ⟨m, s, ch', hfound', hs, -, hch'⟩ := u
  obtain rfl : n = m := by simpa [hfound] using hfound'
  obtain rfl : r = s := by simpa [hr] using hs
  obtain rfl : ch = ch' := by simpa [hch] using hch'
  rfl

/-- The node that a scan finds is recorded, unverified and waits with a challenge. -/
theorem of_found {name : String} (h : (c.scan settings env).1 = .ok (some name)) :
    ∃ t : Trial settings env c, t.node = name := by
  obtain ⟨es, -, hscan⟩ := c.scan_cases settings env
  rw [h] at hscan
  cases hscan with
  | listed hlist hevent hscanned =>
    obtain ⟨r, ch, hr, hunverified, hch, -⟩ := hscanned.pending name rfl
    exact ⟨⟨name, r, ch, h, hr, hunverified, hch⟩, rfl⟩

/-- The calls of a cycle with a trial: those of the scan, those of the verification, and changes
to the cluster. -/
theorem all_calls (t : Trial settings env c) {fs : List Entry} {s : Session ω}
    (hfs : t.session.Calls env fs s) (hchanges : ∀ e ∈ events fs, e.request.isMutation = true) :
    ∃ es₀ es, c.session.Calls env (es₀ ++ es ++ fs) s ∧
      Scan settings env c es₀ (.ok (some t.node)) (c.scan settings env).2.registry ∧
      (c.scan settings env).2.session.Calls env es t.session ∧
      Attempt settings.identity t.record t.challenge (events es) t.result ∧
      mutations (es₀ ++ es ++ fs) = events fs := by
  obtain ⟨es₀, hes₀, hscan⟩ := t.scan_calls
  obtain ⟨es, hes, hattempt⟩ := t.calls
  refine ⟨es₀, es, (hes₀.trans hes).trans hfs, hscan, hes, hattempt, ?_⟩
  rw [mutations_append, mutations_append, hscan.no_calls.2.2, hattempt.mutations_eq_nil,
    (no_calls_of_isMutation hchanges).2.2]
  rfl

/-- The record that the node had before the scan, if it had one. -/
theorem unverified_before (t : Trial settings env c) {r₀ : NodeRecord}
    (h : c.registry.get? t.node = some r₀) : r₀.verified = false ∧ r₀.ip = t.record.ip := by
  obtain ⟨es, -, hscan⟩ := t.scan_calls
  cases hscan with
  | listed hlist hevent hscanned =>
    obtain ⟨r, ch, hr, -, -, hold⟩ := hscanned.pending t.node rfl
    obtain rfl : t.record = r := by simpa [t.recorded] using hr
    exact hold r₀ h

end Trial

/-! ### The ends of a cycle

The verification decides between the last three ends, and a refused step between the last two. -/

/-- What a cycle can come to: its outcome, and the controller afterwards. -/
inductive Cycle (settings : Settings) (env : Environment ω) (c : Controller ω) :
    CycleOutcome → Controller ω → Prop
  | queryFailed {cause c'} (hscan : c.scan settings env = (.error (.queryFailed cause), c')) :
      Cycle settings env c .queryFailed c'
  | idle {c'} (hscan : c.scan settings env = (.ok none, c')) : Cycle settings env c .idle c'
  | verified {c'} (t : Trial settings env c) (hok : t.result = .ok ())
      (hputs : (c.scan settings env).2.registry.Puts t.node
        (some { t.record with verified := true, challenge? := none, nextCheckAt? := none })
        c'.registry)
      (hcalls : t.session.Calls env [] c'.session) :
      Cycle settings env c (.verified t.node) c'
  | remediated {err fs c'} (t : Trial settings env c) (herror : t.result = .error err)
      (hputs : (c.scan settings env).2.registry.Puts t.node none c'.registry)
      (hcalls : t.session.Calls env fs c'.session) (hexpulsion : Expulsion t.node (events fs))
      (htaken : ∀ e ∈ events fs, ¬ e.Refused) :
      Cycle settings env c (.remediated t.node) c'
  | remediationFailed {err fs c'} (t : Trial settings env c) (herror : t.result = .error err)
      (hputs : (c.scan settings env).2.registry.Puts t.node
        (some { t.record with challenge? := none, nextCheckAt? := some t.session.now }) c'.registry)
      (hcalls : t.session.Calls env fs c'.session) (hexpulsion : Expulsion t.node (events fs))
      (hrefused : ∃ e ∈ events fs, e.Refused) :
      Cycle settings env c (.remediationFailed t.node) c'

namespace Controller

variable {settings : Settings} {env : Environment ω} {c : Controller ω}

/-- An expulsion after which nothing or the same is recorded of the node. -/
theorem expel_cases (env : Environment ω) (c : Controller ω) (name : String) :
    ∃ fs, c.session.Calls env fs (c.expel env name).2.session ∧ Expulsion name (events fs) ∧
      ((∀ e ∈ events fs, ¬ e.Refused) ∧ (c.expel env name).1 = .remediated name ∧
          c.registry.Puts name none (c.expel env name).2.registry ∨
        (∃ e ∈ events fs, e.Refused) ∧ (c.expel env name).1 = .remediationFailed name ∧
          (c.expel env name).2.registry = c.registry) := by
  obtain ⟨fs, hcalls, hexpulsion, hok⟩ := remediate_expulsion env name c.session
  unfold expel
  generalize remediate env name c.session = reply at hcalls hok ⊢
  obtain ⟨e | u, s⟩ := reply
  · have hrefused : ∃ e ∈ events fs, e.Refused := by simpa using hok
    exact ⟨fs, hcalls, hexpulsion, .inr ⟨hrefused, rfl, rfl⟩⟩
  · exact ⟨fs, hcalls, hexpulsion, .inl ⟨hok.mp rfl, rfl, Registry.puts_evict _ _⟩⟩

/-- A cycle takes neither guard on its way to the attempt. -/
theorem runCycle_eq_attempt (t : Trial settings env c) :
    c.runCycle settings env = (c.scan settings env).2.attempt settings env t.node t.record := by
  have hfound := t.found
  have hrecorded := t.recorded
  unfold runCycle
  generalize c.scan settings env = outcome at hfound hrecorded ⊢
  obtain ⟨result, c₁⟩ := outcome
  obtain rfl : result = .ok (some t.node) := hfound
  simp only [hrecorded]

/-- How a cycle with a trial goes on, by the result of the trial. -/
theorem runCycle_of_trial (t : Trial settings env c) :
    c.runCycle settings env = match t.result with
      | .ok _ => (.verified t.node, t.after)
      | .error .noPendingChallenge => (.idle, t.after)
      | .error _ => t.after.expel env t.node := by
  rw [runCycle_eq_attempt t]
  rfl

theorem runCycle_of_ok (t : Trial settings env c) (h : t.result = .ok ()) :
    c.runCycle settings env = (.verified t.node, t.after) := by
  rw [runCycle_of_trial t, h]

/-- A trial that fails leads to an expulsion. The one error that would not is never
the outcome of a trial. -/
theorem runCycle_of_error (t : Trial settings env c) {err : VerificationError}
    (h : t.result = .error err) : c.runCycle settings env = t.after.expel env t.node := by
  have hpending := t.result_ne_noPendingChallenge
  rw [runCycle_of_trial t, h]
  rw [h] at hpending
  cases err with
  | noPendingChallenge => exact absurd rfl hpending
  | _ => rfl

/-- A cycle with a trial ends as the verification and, if it failed, the expulsion say. -/
theorem runCycle_trial_cases (t : Trial settings env c) :
    Cycle settings env c (c.runCycle settings env).1 (c.runCycle settings env).2 := by
  have hafter := t.after_puts
  cases hresult : t.result with
  | ok u =>
    rw [hresult] at hafter
    rw [runCycle_of_ok t hresult]
    exact .verified t hresult hafter (.refl _)
  | error err =>
    rw [hresult] at hafter
    rw [runCycle_of_error t hresult]
    obtain ⟨fs, hcalls, hexpulsion, hend⟩ := expel_cases env t.after t.node
    generalize t.after.expel env t.node = outcome at hcalls hend ⊢
    obtain ⟨outcome, c'⟩ := outcome
    rcases hend with ⟨htaken, rfl, hputs⟩ | ⟨hrefused, rfl, hregistry⟩
    · -- The later change of the name counts: what the verification left is evicted.
      exact .remediated t hresult (hafter.trans hputs) hcalls hexpulsion htaken
    · rw [← hregistry] at hafter
      exact .remediationFailed t hresult hafter hcalls hexpulsion hrefused

theorem expel_drawn (env : Environment ω) (c : Controller ω) (name : String) :
    (c.expel env name).2.session.drawn = c.session.drawn := by
  have hsteps : (remediate env name c.session).2.drawn = c.session.drawn :=
    takeSteps_drawn env name remediationSteps c.session
  unfold expel
  generalize remediate env name c.session = reply at hsteps ⊢
  obtain ⟨e | u, s⟩ := reply
  · exact hsteps
  · exact hsteps

/-- A cycle draws challenges in its scan only. -/
theorem runCycle_drawn (settings : Settings) (env : Environment ω) (c : Controller ω) :
    (c.runCycle settings env).2.session.drawn = (c.scan settings env).2.session.drawn := by
  cases hfound : (c.scan settings env).1 with
  | error e =>
    unfold runCycle
    generalize c.scan settings env = outcome at hfound ⊢
    obtain ⟨result, c₁⟩ := outcome
    obtain rfl : result = .error e := hfound
    rfl
  | ok found? =>
    cases found? with
    | none =>
      unfold runCycle
      generalize c.scan settings env = outcome at hfound ⊢
      obtain ⟨result, c₁⟩ := outcome
      obtain rfl : result = .ok none := hfound
      rfl
    | some name =>
      -- A node was found. Neither the verification nor the expulsion draws.
      obtain ⟨t, -⟩ := Trial.of_found hfound
      have hverify : t.session.drawn = (c.scan settings env).2.session.drawn :=
        verify_drawn env settings.identity t.record _
      cases hresult : t.result with
      | ok u =>
        rw [runCycle_of_ok t hresult]
        exact hverify
      | error err =>
        rw [runCycle_of_error t hresult]
        exact (expel_drawn env t.after t.node).trans hverify

theorem runCycle_cases (settings : Settings) (env : Environment ω) (c : Controller ω) :
    Cycle settings env c (c.runCycle settings env).1 (c.runCycle settings env).2 := by
  -- By the result of the scan: it failed, it found nothing, or it found a node.
  cases hscan : c.scan settings env with
  | mk result c₁ =>
    cases result with
    | error e =>
      obtain ⟨cause⟩ := e
      unfold runCycle
      rw [hscan]
      exact .queryFailed hscan
    | ok found? =>
      cases found? with
      | none =>
        unfold runCycle
        rw [hscan]
        exact .idle hscan
      | some name =>
        have hfound : (c.scan settings env).1 = .ok (some name) := by rw [hscan]
        obtain ⟨t, -⟩ := Trial.of_found hfound
        exact runCycle_trial_cases t

end Controller

namespace Cycle

variable {settings : Settings} {env : Environment ω} {c c' : Controller ω} {outcome : CycleOutcome}

/-- The outcome tells whether the scan failed. -/
theorem queryFailed_iff (h : Cycle settings env c outcome c') :
    outcome = .queryFailed ↔ ∃ e, (c.scan settings env).1 = .error e := by
  cases h with
  | queryFailed hscan => simp [hscan]
  | idle hscan => simp [hscan]
  | verified t | remediated t | remediationFailed t => simp [t.found]

theorem idle_iff (h : Cycle settings env c outcome c') :
    outcome = .idle ↔ (c.scan settings env).1 = .ok none := by
  cases h with
  | queryFailed hscan => simp [hscan]
  | idle hscan => simp [hscan]
  | verified t | remediated t | remediationFailed t => simp [t.found]

end Cycle

end NodeAdmission.Admission
