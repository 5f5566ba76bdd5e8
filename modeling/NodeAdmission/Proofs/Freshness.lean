import Mathlib.Algebra.Order.Ring.Nat
import Mathlib.Data.List.Nodup
import Mathlib.Data.Set.Function
import Mathlib.Order.Interval.Set.Basic
import NodeAdmission.Proofs.Course

/-!
# Challenges are delivered once

A challenge that was delivered to an agent is never delivered again, as long as the generator does
not return a value twice. The invariant is `Controller.Fresh`: what is pending was drawn, was not
delivered yet, and is pending for one name only.

* `Controller.Fresh.extend` — a step that draws at most one challenge and delivers none keeps it.
  Every visit of a scan is such a step, hence `Visit.fresh`, `Visits.fresh` and `Survey.fresh`.
* `Trial.Stages.fresh` — an attempt delivers the pending challenge of its node and ends
  with nothing pending for it.
* `Turn.fresh` — both together, for every kind of turn.
* `Turn.pending`, `Controller.run_pending` — nothing but an attempt takes a pending challenge away.
* `run_challenges_fresh` — the main statement.

The part `single` of the invariant is what makes the induction go through. If one
challenge could be pending for two nodes then the attempt on the first would deliver it
and leave it pending for the second.

The generator is asked for as many values as the run draws, and only these have to be different.
That all its values are different could not be asked for, since there are finitely many challenges.
-/

namespace NodeAdmission.Admission

open Cluster (Node)

/-! ### Challenges and their texts -/

namespace Challenge

theorem symbol_injective : Function.Injective symbol := by
  have hall : ∀ i j, symbol i = symbol j → i = j := by decide +kernel
  exact fun i j => hall i j

theorem text_injective : Function.Injective text := by
  intro a b h
  have hchars : a.chars = b.chars := by
    have hlist := congrArg String.toList h
    rwa [text, text, String.toList_ofList, String.toList_ofList] at hlist
  have hsymbols : a.symbols = b.symbols := List.map_injective_iff.mpr symbol_injective hchars
  cases a
  cases b
  simpa using hsymbols

/-- Numbers of so many digits are equal if their digits are. -/
theorem digits_inj {count n m : Nat} (hn : n < 62 ^ count) (hm : m < 62 ^ count)
    (h : digits count n = digits count m) : n = m := by
  induction count generalizing n m with
  | zero => omega
  | succ count ih =>
    -- The lowest digit and the others, which are the digits of a quotient.
    obtain ⟨hlow, hrest⟩ := List.cons.inj h
    have hlow : n % 62 = m % 62 := congrArg Fin.val hlow
    have hhigh : n / 62 = m / 62 := by
      apply ih _ _ hrest
      · omega
      · omega
    omega

theorem ofNumber_injOn : Set.InjOn ofNumber (Set.Iio (62 ^ challengeLength)) := by
  intro n hn m hm h
  exact digits_inj hn hm (congrArg symbols h)

end Challenge

/-! ### What is delivered and what is pending -/

def Request.challenge? : Request → Option String
  | .encrypt _ _ challenge => some challenge
  | _ => none

def delivered (es : List Entry) : List String := (events es).filterMap (·.request.challenge?)

def Controller.Pending (c : Controller ω) (name : String) (ch : Challenge) : Prop :=
  ∃ r, c.registry.get? name = some r ∧ r.challenge? = some ch

/-- The turn is a cycle with an attempt on the node, for which the challenge was pending. -/
def Turn.Tries (settings : Settings) (env : Environment ω) (t : Turn ω) (name : String)
    (ch : Challenge) : Prop :=
  t.move = .cycle ∧ ∃ trial : Trial settings env t.before, trial.node = name ∧ trial.challenge = ch

/-- No challenge was delivered twice, and none that is pending was delivered or is pending for two
nodes. All of them were drawn. -/
structure Controller.Fresh (env : Environment ω) (c : Controller ω) : Prop where
  once : (delivered c.session.log).Nodup
  delivered_drawn : ∀ text ∈ delivered c.session.log,
    ∃ i < c.session.drawn, (env.challenges i).text = text
  pending_drawn : ∀ name ch, c.Pending name ch → ∃ i < c.session.drawn, env.challenges i = ch
  undelivered : ∀ name ch, c.Pending name ch → ch.text ∉ delivered c.session.log
  single : ∀ name name' ch, c.Pending name ch → c.Pending name' ch → name = name'

variable {settings : Settings} {env : Environment ω} {c c' : Controller ω} {node : Node}
  {nodes : List Node} {name : String} {ch : Challenge} {r : NodeRecord} {e : Entry}
  {es es₀ fs : List Entry} {found : Bool} {found? : Option String} {r? : Option NodeRecord}
  {result : Except AdmissionError (Option String)} {outcome : CycleOutcome} {t : Turn ω} {n : Nat}

theorem delivered_append (es fs : List Entry) :
    delivered (es ++ fs) = delivered es ++ delivered fs := by
  rw [delivered, events_append, List.filterMap_append]
  rfl

/-- Calls that do not go to an agent deliver nothing. -/
theorem delivered_eq_nil (h : ∀ e ∈ es, e.event.request.agentAddress? = none) :
    delivered es = [] := by
  refine List.filterMap_eq_nil_iff.mpr fun event hevent => ?_
  obtain ⟨e, he, rfl⟩ := List.mem_map.mp hevent
  have hagent := h e he
  cases hq : e.event.request <;> simp [hq, Request.challenge?, Request.agentAddress?] at hagent ⊢

/-- An attempt delivers its challenge at most once, and no other. -/
theorem Attempt.delivered_prefix {identity : Identity} {outcome : Except VerificationError Unit}
    (h : Attempt identity r ch (events es) outcome) : delivered es <+: [ch.text] := by
  obtain ⟨body, ⟨hcut, -⟩, -⟩ := h
  have hplan : (attemptPlan identity r ch body).filterMap Request.challenge? = [ch.text] := rfl
  have hlead := hcut.calls.filterMap Request.challenge?
  rwa [hplan, List.filterMap_map] at hlead

/-- What is pending in the registry does not depend on the session. -/
theorem Controller.Pending.of_registry (hp : c.Pending name ch)
    (h : c'.registry.get? name = c.registry.get? name) : c'.Pending name ch := by
  obtain ⟨r, hr, hch⟩ := hp
  exact ⟨r, h.trans hr, hch⟩

/-! ### Visits

What a visit may do to the challenges: draw one for its own node, and nothing else. -/

namespace Visit

/-- A visit draws challenges and never puts one back. -/
theorem drawn_le (h : Visit settings env c node found c') : c.session.drawn ≤ c'.session.drawn := by
  cases h with
  | notReady | notDue | unaddressed => exact Nat.le_refl _
  | retried hready hr hunverified hover hputs hcalls hdrawn =>
    rw [hdrawn]
    split <;> omega
  | exempted hready hnone hip hexempt hputs hcalls hdrawn => exact Nat.le_of_eq hdrawn.symm
  | reached hready hnone hip hworker hputs hcalls hdrawn
  | deferred hready hnone hip hworker hputs hcalls hdrawn => exact hdrawn ▸ Nat.le_succ _

/-- A visit calls nobody but the probe. -/
theorem delivers_nothing (h : Visit settings env c node found c')
    (hcalls : c.session.Calls env fs c'.session) : delivered fs = [] := by
  apply delivered_eq_nil
  intro e he
  obtain ⟨-, -, ip, r, hevent, -⟩ := h.probe hcalls he
  rw [hevent]
  rfl

/-- A visit keeps what is pending. -/
theorem pending (h : Visit settings env c node found c') (hp : c.Pending name ch) :
    c'.Pending name ch := by
  by_cases hname : name = node.name
  · subst hname
    obtain ⟨r, hr, hch⟩ := hp
    cases h with
    | notReady | notDue | unaddressed => exact ⟨r, hr, hch⟩
    -- A retry draws a challenge only if none is pending.
    | retried hready hr' hunverified hover hputs hcalls hdrawn =>
      obtain rfl := Option.some.inj (hr.symm.trans hr')
      rw [NodeRecord.beginAttempt_of_some hch] at hputs
      exact ⟨r, hputs.self, hch⟩
    | exempted hready hnone hip hexempt hputs hcalls hdrawn =>
      rw [hnone] at hr
      cases hr
    | reached hready hnone hip hworker hputs hcalls hdrawn
    | deferred hready hnone hip hworker hputs hcalls hdrawn =>
      rw [hnone] at hr
      cases hr
  · exact hp.of_registry (h.other hname)

/-- What is pending after a visit was pending before, or the visit has drawn it for its node. -/
theorem pending_origin (h : Visit settings env c node found c') (hp : c'.Pending name ch) :
    c.Pending name ch ∨ name = node.name ∧ ch = env.challenges c.session.drawn ∧
      c'.session.drawn = c.session.drawn + 1 := by
  -- A visit writes to the record of its own node only.
  by_cases hname : name = node.name
  · subst hname
    obtain ⟨r, hr, hch⟩ := hp
    cases h with
    | notReady | notDue | unaddressed => exact .inl ⟨r, hr, hch⟩
    | @retried s c' hready hs hunverified hover hputs hcalls hdrawn =>
      obtain rfl := Option.some.inj (hputs.self.symm.trans hr)
      cases hpending : s.challenge? with
      | none =>
        rw [if_pos hpending] at hdrawn
        rw [NodeRecord.beginAttempt, hpending] at hch
        exact .inr ⟨rfl, (Option.some.inj hch).symm, hdrawn⟩
      | some pending =>
        rw [NodeRecord.beginAttempt_of_some hpending] at hch
        exact .inl ⟨s, hs, hch⟩
    | exempted hready hnone hip hexempt hputs hcalls hdrawn =>
      obtain rfl := Option.some.inj (hputs.self.symm.trans hr)
      cases hch
    | reached hready hnone hip hworker hputs hcalls hdrawn =>
      obtain rfl := Option.some.inj (hputs.self.symm.trans hr)
      exact .inr ⟨rfl, (Option.some.inj hch).symm, hdrawn⟩
    | deferred hready hnone hip hworker hputs hcalls hdrawn =>
      obtain rfl := Option.some.inj (hputs.self.symm.trans hr)
      cases hch
  · exact .inl (hp.of_registry (h.other hname).symm)

end Visit

/-! ### One step further -/

namespace Controller.Fresh

/-- A step that delivers nothing and draws a challenge at most for the node `x`. -/
theorem extend {x : String} (h : c.Fresh env)
    (hfresh : Set.InjOn env.challenges (Set.Iio n)) (hbound : c'.session.drawn ≤ n)
    (hlog : delivered c'.session.log = delivered c.session.log)
    (hle : c.session.drawn ≤ c'.session.drawn)
    (horigin : ∀ name ch, c'.Pending name ch → c.Pending name ch ∨ name = x ∧
      ch = env.challenges c.session.drawn ∧ c'.session.drawn = c.session.drawn + 1) :
    c'.Fresh env := by
  -- A challenge that was just drawn differs from all before it.
  have hnew : c'.session.drawn = c.session.drawn + 1 → ∀ i < c.session.drawn,
      env.challenges i ≠ env.challenges c.session.drawn := by
    intro hdrawn i hi heq
    have hi' : i < n := by omega
    have hn : c.session.drawn < n := by omega
    have := hfresh hi' hn heq
    omega
  refine ⟨hlog ▸ h.once, ?_, ?_, ?_, ?_⟩
  · intro text htext
    obtain ⟨i, hi, htext⟩ := h.delivered_drawn text (hlog ▸ htext)
    exact ⟨i, Nat.lt_of_lt_of_le hi hle, htext⟩
  · intro name ch hp
    rcases horigin name ch hp with hold | ⟨-, rfl, hdrawn⟩
    · obtain ⟨i, hi, hch⟩ := h.pending_drawn name ch hold
      exact ⟨i, Nat.lt_of_lt_of_le hi hle, hch⟩
    · exact ⟨_, by omega, rfl⟩
  · intro name ch hp hmem
    rw [hlog] at hmem
    rcases horigin name ch hp with hold | ⟨-, rfl, hdrawn⟩
    · exact h.undelivered name ch hold hmem
    · obtain ⟨i, hi, htext⟩ := h.delivered_drawn _ hmem
      exact hnew hdrawn i hi (Challenge.text_injective htext)
  · intro name name' ch hp hp'
    -- A challenge that was just drawn is pending for its node only.
    rcases horigin name ch hp with hold | ⟨rfl, hch, hdrawn⟩
    · rcases horigin name' ch hp' with hold' | ⟨rfl, hch', hdrawn⟩
      · exact h.single name name' ch hold hold'
      · obtain ⟨i, hi, hch⟩ := h.pending_drawn name ch hold
        exact absurd (hch.trans hch') (hnew hdrawn i hi)
    · rcases horigin name' ch hp' with hold' | ⟨rfl, -, -⟩
      · obtain ⟨i, hi, hch'⟩ := h.pending_drawn name' ch hold'
        exact absurd (hch'.trans hch) (hnew hdrawn i hi)
      · rfl

/-- A step that neither delivers nor draws nor records anything. -/
theorem keep (h : c.Fresh env) (hlog : delivered c'.session.log = delivered c.session.log)
    (hdrawn : c'.session.drawn = c.session.drawn) (hregistry : c'.registry = c.registry) :
    c'.Fresh env := by
  have hback : ∀ {name ch}, c'.Pending name ch → c.Pending name ch :=
    fun hp => hp.of_registry (by rw [hregistry])
  refine ⟨hlog ▸ h.once, ?_, ?_, ?_, ?_⟩
  · rw [hlog, hdrawn]
    exact h.delivered_drawn
  · intro name ch hp
    rw [hdrawn]
    exact h.pending_drawn name ch (hback hp)
  · intro name ch hp
    rw [hlog]
    exact h.undelivered name ch (hback hp)
  · intro name name' ch hp hp'
    exact h.single name name' ch (hback hp) (hback hp')

end Controller.Fresh

/-! ### Scans -/

/-- A visit draws at most one challenge, for its own node. -/
theorem Visit.fresh (h : Visit settings env c node found c')
    (hcalls : c.session.Calls env fs c'.session) (hfresh : Set.InjOn env.challenges (Set.Iio n))
    (hbound : c'.session.drawn ≤ n) (hc : c.Fresh env) : c'.Fresh env := by
  have hlog : delivered c'.session.log = delivered c.session.log := by
    rw [hcalls.log, delivered_append, h.delivers_nothing hcalls, List.append_nil]
  exact hc.extend hfresh hbound hlog h.drawn_le fun name ch hp => h.pending_origin hp

namespace Visits

theorem drawn_le (h : Visits settings env c nodes es found? c') :
    c.session.drawn ≤ c'.session.drawn := by
  induction h with
  | done => exact Nat.le_refl _
  | pass hvisit hcalls hrest ih => exact Nat.le_trans hvisit.drawn_le ih
  | stop hvisit hcalls => exact hvisit.drawn_le

theorem pending (h : Visits settings env c nodes es found? c') (hp : c.Pending name ch) :
    c'.Pending name ch := by
  induction h with
  | done => exact hp
  | pass hvisit hcalls hrest ih => exact ih (hvisit.pending hp)
  | stop hvisit hcalls => exact hvisit.pending hp

theorem fresh (h : Visits settings env c nodes es found? c')
    (hfresh : Set.InjOn env.challenges (Set.Iio n)) (hbound : c'.session.drawn ≤ n)
    (hc : c.Fresh env) : c'.Fresh env := by
  induction h with
  | done => exact hc
  | pass hvisit hcalls hrest ih =>
    apply ih hbound
    exact hvisit.fresh hcalls hfresh (Nat.le_trans hrest.drawn_le hbound) hc
  | stop hvisit hcalls => exact hvisit.fresh hcalls hfresh hbound hc

end Visits

namespace Survey

theorem drawn_le (h : Survey settings env c es result c') :
    c.session.drawn ≤ c'.session.drawn := by
  cases h with
  | failed hlist hevent hregistry hcalls hdrawn => exact Nat.le_of_eq hdrawn.symm
  | listed hlist hevent hregistry hcalls hvisits hdrawn => exact hdrawn ▸ hvisits.drawn_le

theorem pending (h : Survey settings env c es result c') (hp : c.Pending name ch) :
    c'.Pending name ch := by
  cases h with
  | failed hlist hevent hregistry hcalls hdrawn => exact hp.of_registry (by rw [hregistry])
  | listed hlist hevent hregistry hcalls hvisits hdrawn =>
    exact hvisits.pending (hp.of_registry (by rw [hregistry]))

/-- A scan keeps the invariant, since each of its visits does. -/
theorem fresh (h : Survey settings env c es result c')
    (hfresh : Set.InjOn env.challenges (Set.Iio n)) (hbound : c'.session.drawn ≤ n)
    (hc : c.Fresh env) : c'.Fresh env := by
  have hlist : ∀ {c₁ : Controller ω} {e : Entry} {listing}, e.event = .listed listing →
      c.session.Calls env [e] c₁.session → delivered c₁.session.log = delivered c.session.log := by
    intro c₁ e listing hevent hcalls
    have hnone : delivered [e] = [] := by simp [delivered, events, hevent]; rfl
    rw [hcalls.log, delivered_append, hnone, List.append_nil]
  cases h with
  | failed _ hevent hregistry hcalls hdrawn =>
    exact hc.keep (hlist hevent hcalls) hdrawn hregistry
  | listed _ hevent hregistry hcalls hvisits hdrawn =>
    exact hvisits.fresh hfresh hbound (hc.keep (hlist hevent hcalls) hdrawn hregistry)

end Survey

/-! ### Cycles

The scan only draws and the rest of the cycle only delivers, so the invariant of the scan is
all that the attempt needs. -/

/-- The attempt delivers what was pending for its node, and leaves nothing pending for it. -/
theorem Trial.Stages.fresh {trial : Trial settings env c} (h : trial.Stages es₀ es fs r? c')
    (hdrawn : c'.session.drawn = (c.scan settings env).2.session.drawn)
    (hended : ∀ r, r? = some r → r.challenge? = none) (hc : (c.scan settings env).2.Fresh env) :
    c'.Fresh env := by
  have hpending : (c.scan settings env).2.Pending trial.node trial.challenge :=
    ⟨trial.record, trial.recorded, trial.pending⟩
  have hundelivered := hc.undelivered _ _ hpending
  -- What is pending afterwards was pending before, for another node.
  have hback : ∀ {name ch}, c'.Pending name ch →
      name ≠ trial.node ∧ (c.scan settings env).2.Pending name ch := by
    rintro name ch ⟨r, hr, hch⟩
    have hname : name ≠ trial.node := by
      rintro rfl
      rw [hended r (h.puts.self.symm.trans hr)] at hch
      cases hch
    exact ⟨hname, r, (h.puts.other hname).symm.trans hr, hch⟩
  have hsteps : delivered fs = [] := by
    apply delivered_eq_nil
    intro e he
    obtain ⟨step, result, hevent⟩ := h.steps _ (List.mem_map_of_mem he)
    rw [hevent]
    rfl
  have hlog : delivered c'.session.log =
      delivered (c.scan settings env).2.session.log ++ delivered es := by
    rw [h.steps_calls.log, h.attempt_calls.log, delivered_append, delivered_append, hsteps,
      List.append_nil]
  have hlead := h.attempt.delivered_prefix
  have honly : ∀ text ∈ delivered es, text = trial.challenge.text :=
    fun text htext => List.mem_singleton.mp (hlead.subset htext)
  refine ⟨?_, ?_, ?_, ?_, ?_⟩
  · rw [hlog]
    -- The challenge of the trial is new in the log, for it was pending until now.
    refine List.nodup_append.mpr ⟨hc.once, hlead.sublist.nodup (List.nodup_singleton _), ?_⟩
    rintro text htext _ hmem rfl
    exact hundelivered (honly text hmem ▸ htext)
  · intro text htext
    rw [hlog] at htext
    rw [hdrawn]
    rcases List.mem_append.mp htext with htext | htext
    · exact hc.delivered_drawn text htext
    · obtain ⟨i, hi, hch⟩ := hc.pending_drawn _ _ hpending
      exact ⟨i, hi, by rw [hch, honly text htext]⟩
  · intro name ch hp
    rw [hdrawn]
    exact hc.pending_drawn name ch (hback hp).2
  · intro name ch hp hmem
    obtain ⟨hname, hp⟩ := hback hp
    rw [hlog] at hmem
    rcases List.mem_append.mp hmem with hmem | hmem
    · exact hc.undelivered name ch hp hmem
    · -- Another node would share the challenge of the trial.
      obtain rfl := Challenge.text_injective (honly _ hmem)
      exact hname (hc.single name trial.node trial.challenge hp hpending)
  · intro name name' ch hp hp'
    exact hc.single name name' ch (hback hp).2 (hback hp').2

/-- Whatever the result of the attempt, nothing is pending afterwards. -/
theorem NodeRecord.afterExchange_challenge? (r : NodeRecord) (now : Instant)
    (result : Except VerificationError Unit) : (r.afterExchange now result).challenge? = none := by
  cases result <;> rfl

/-- A cycle keeps the invariant of its scan. -/
theorem Course.fresh (h : Course settings env c es outcome c')
    (hdrawn : c'.session.drawn = (c.scan settings env).2.session.drawn)
    (hc : (c.scan settings env).2.Fresh env) : c'.Fresh env := by
  cases h with
  | quiet hsurvey hnobody houtcome => exact hc
  | kept trial hstages houtcome =>
    apply hstages.fresh hdrawn _ hc
    rintro r ⟨⟩
    exact NodeRecord.afterExchange_challenge? _ _ _
  | evicted trial hstages => exact hstages.fresh hdrawn nofun hc

/-- After a cycle nothing is pending for the node on trial. -/
theorem Course.ended (h : Course settings env c es outcome c') (trial : Trial settings env c) :
    ¬ c'.Pending trial.node ch := by
  rintro ⟨r, hr, hch⟩
  -- An evicted node has no record; the attempt on any other node has ended with its challenge.
  by_cases hkept : outcome = .remediated trial.node
  · cases h with
    | quiet hsurvey hnobody houtcome => exact hnobody _ trial.found
    | kept u hstages houtcome => simp [hkept] at houtcome
    | evicted u hstages =>
      obtain rfl := u.eq trial
      have hnone := hstages.puts.self
      rw [hr] at hnone
      cases hnone
  · have hrecord := h.tried trial hkept
    obtain rfl := Option.some.inj (hrecord.symm.trans hr)
    rw [NodeRecord.afterExchange_challenge?] at hch
    cases hch

/-! ### Turns -/

theorem Session.sleep_drawn (s : Session ω) (interval : Duration) :
    (s.sleep interval).drawn = s.drawn := call_drawn s _ _

namespace Turn

theorem drawn_le (t : Turn ω) :
    t.before.session.drawn ≤ (t.after settings env).session.drawn := by
  obtain ⟨es, hsurvey⟩ := t.before.scan_survey settings env
  cases hmove : t.move with
  | scan =>
    rw [Turn.after, hmove]
    exact hsurvey.drawn_le
  | cycle =>
    rw [Turn.after, hmove]
    exact Nat.le_trans hsurvey.drawn_le
      (Nat.le_of_eq (Controller.runCycle_drawn settings env t.before).symm)
  | sleep interval =>
    rw [Turn.after, hmove, Controller.move_sleep]
    show t.before.session.drawn ≤ (t.before.session.sleep interval).drawn
    rw [Session.sleep_drawn]

/-- A turn keeps the invariant, as long as the generator does not repeat itself up to its end. -/
theorem fresh (hfresh : Set.InjOn env.challenges (Set.Iio n))
    (hbound : (t.after settings env).session.drawn ≤ n) (h : t.before.Fresh env) :
    (t.after settings env).Fresh env := by
  obtain ⟨es, hsurvey⟩ := t.before.scan_survey settings env
  cases hmove : t.move with
  | scan =>
    rw [Turn.after, hmove] at hbound ⊢
    exact hsurvey.fresh hfresh hbound h
  | cycle =>
    -- All challenges of a cycle are drawn by its scan.
    have hdrawn : (t.after settings env).session.drawn =
        (t.before.scan settings env).2.session.drawn := by
      rw [Turn.after, hmove]
      exact Controller.runCycle_drawn settings env t.before
    exact (course_of_cycle hmove).fresh hdrawn (hsurvey.fresh hfresh (hdrawn ▸ hbound) h)
  | sleep interval =>
    have hcalls := t.before.session.calls_sleep env interval
    have hnone : delivered [⟨t.before.session.now, (t.before.session.sleep interval).now,
        .slept interval⟩] = [] := rfl
    rw [Turn.after, hmove, Controller.move_sleep]
    apply h.keep
    · rw [hcalls.log, delivered_append, hnone, List.append_nil]
    · exact Session.sleep_drawn _ _
    · rfl

/-- What is pending stays pending over a turn, unless the turn ends the attempt. -/
theorem pending (hp : t.before.Pending name ch) :
    (t.after settings env).Pending name ch ∨ t.Tries settings env name ch := by
  obtain ⟨es, hsurvey⟩ := t.before.scan_survey settings env
  have hscanned := hsurvey.pending hp
  cases hmove : t.move with
  | scan =>
    rw [Turn.after, hmove]
    exact .inl hscanned
  | sleep interval =>
    rw [Turn.after, hmove]
    exact .inl (hp.of_registry (by rw [Controller.move_sleep]))
  | cycle =>
    -- A cycle concerns the node on trial only, and a trial is an attempt with what is pending.
    by_cases htrial : ∃ trial : Trial settings env t.before, trial.node = name
    · obtain ⟨trial, rfl⟩ := htrial
      obtain ⟨r, hr, hch⟩ := hscanned
      obtain rfl := Option.some.inj (trial.recorded.symm.trans hr)
      exact .inr ⟨hmove, trial, rfl, Option.some.inj (trial.pending.symm.trans hch)⟩
    · have hcourse : Course settings env t.before _ _ (t.after settings env) :=
        course_of_cycle hmove
      refine .inl (hscanned.of_registry (hcourse.other ?_))
      intro trial hname
      exact htrial ⟨trial, hname.symm⟩

end Turn

/-! ### Runs -/

namespace Controller

/-- A fresh controller has delivered nothing and waits for nothing. -/
theorem fresh_new (env : Environment ω) (world : ω) : (new world).Fresh env := by
  have hpending : ∀ name ch, ¬ (new world).Pending name ch := by
    rintro name ch ⟨r, hr, -⟩
    cases hr
  exact ⟨.nil, nofun, fun name ch hp => absurd hp (hpending name ch),
    fun name ch hp => absurd hp (hpending name ch),
    fun name name' ch hp => absurd hp (hpending name ch)⟩

/-- Over a run, too, only an attempt takes a pending challenge away. -/
theorem run_pending {ms : List Move} (hp : c.Pending name ch) :
    (c.run settings env ms).Pending name ch ∨
      ∃ t ∈ c.turns settings env ms, t.Tries settings env name ch := by
  induction ms generalizing c with
  | nil => exact .inl hp
  | cons m ms ih =>
    have hfirst : (c.move settings env m).Pending name ch ∨ _ := Turn.pending (t := ⟨c, m⟩) hp
    rcases hfirst with hp | htries
    · rcases ih hp with hp | ⟨t, ht, htries⟩
      · exact .inl hp
      · exact .inr ⟨t, List.mem_cons_of_mem _ ht, htries⟩
    · exact .inr ⟨⟨c, m⟩, List.mem_cons_self, htries⟩

end Controller

/-- In every run of a fresh controller during which no challenge is drawn twice, no challenge is
delivered twice to whatever agent. And a challenge that is pending for a node after some moves of a
run is still pending after any more, and after one more scan, unless an attempt on the node was made
with this challenge in between; after that attempt nothing is pending for the node. -/
theorem run_challenges_fresh (settings : Settings) (env : Environment ω) (world : ω)
    (ms : List Move)
    (hfresh : Set.InjOn env.challenges
      (Set.Iio (Controller.run settings env (.new world) ms).session.drawn)) :
    (delivered (Controller.run settings env (.new world) ms).session.log).Nodup ∧
      ∀ ms₁ ms₂ name ch,
        let c := Controller.run settings env (.new world) ms₁
        let c' := Controller.run settings env (.new world) (ms₁ ++ ms₂)
        c.Pending name ch →
          c'.Pending name ch ∧ (c'.scan settings env).2.Pending name ch ∨
          ∃ t ∈ c.turns settings env ms₂, t.Tries settings env name ch ∧
            ∀ ch', ¬ (t.after settings env).Pending name ch' := by
  refine ⟨?_, ?_⟩
  · -- All turns draw below the number of the last, where the generator does not repeat itself.
    generalize hn : (Controller.run settings env (.new world) ms).session.drawn = n at hfresh
    have hrun : (Controller.run settings env (.new world) ms).session.drawn ≤ n →
        (Controller.run settings env (.new world) ms).Fresh env := by
      apply Controller.run_induct (P := fun c => c.session.drawn ≤ n → c.Fresh env)
      · exact fun _ => Controller.fresh_new env world
      · intro t _ h hbound
        exact Turn.fresh hfresh hbound (h (Nat.le_trans t.drawn_le hbound))
    exact (hrun (Nat.le_of_eq hn)).once
  · intro ms₁ ms₂ name ch c c' hp
    have hc' : c' = c.run settings env ms₂ := Controller.run_append settings env _ ms₁ ms₂
    have hrun : (c.run settings env ms₂).Pending name ch ∨
        ∃ t ∈ c.turns settings env ms₂, t.Tries settings env name ch := Controller.run_pending hp
    -- The challenge is still pending, or one of the turns has tried it.
    rcases hrun with hp' | ⟨t, ht, hmove, trial, hname, hch⟩
    · rw [← hc'] at hp'
      obtain ⟨es, hsurvey⟩ := c'.scan_survey settings env
      exact .inl ⟨hp', hsurvey.pending hp'⟩
    · refine .inr ⟨t, ht, ⟨hmove, trial, hname, hch⟩, ?_⟩
      intro ch'
      rw [← hname]
      exact (Turn.course_of_cycle hmove).ended trial

/-! ### Two attempts on one worker -/

/-- The agent of the worker refuses to encrypt, and the cluster refuses to expel the worker. -/
def stubbornEnvironment : Environment Unit :=
  { sampleEnvironment with
    encrypt := fun _ _ => pure (.error (.unexpectedStatus 500 "no key"))
    apply := fun _ _ => pure (.error (.commandFailed "kubectl" "exit status: 1" "")) }

/-- The second attempt on the worker comes with a challenge of its own. -/
theorem stubborn_worker_challenged_twice :
    let ms := cooldownMoves ++ [.cycle]
    let c := Controller.run sampleSettings stubbornEnvironment (.new ()) ms
    Set.InjOn stubbornEnvironment.challenges (Set.Iio c.session.drawn) ∧
      delivered c.session.log = [(Challenge.ofNumber 0).text, (Challenge.ofNumber 1).text] ∧
      (delivered c.session.log).Nodup := by
  intro ms c
  have hdrawn : c.session.drawn = 2 := rfl
  have hfresh : Set.InjOn stubbornEnvironment.challenges (Set.Iio c.session.drawn) := by
    apply Challenge.ofNumber_injOn.mono
    rw [hdrawn]
    exact Set.Iio_subset_Iio (by decide)
  exact ⟨hfresh, rfl, (run_challenges_fresh sampleSettings stubbornEnvironment () ms hfresh).1⟩

end NodeAdmission.Admission
