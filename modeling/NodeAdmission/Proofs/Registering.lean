import Mathlib.Algebra.Order.Ring.Nat
import NodeAdmission.Service.Bootstrap
import NodeAdmission.Timed

/-!
# Registering again and again

A service asks to be registered until it is, and what it asks of the crypto service is told
by the crypto service alone: the first attempt is made at once, each other one a pause after
the one before was refused.

* `nthAttempt` — the attempt with a number, without a look at the loop and without any bound
  on the number of attempts.
* `registerFrom_of_accepted`, `registerFrom_of_refused` — one round of the loop.
* `registerFrom_accepted`, `registerFrom_refused` — the loop makes the attempts up to the first
  one that is accepted, and as many as it may if there is none. Both are by induction on the
  attempts, with the instant and the state of the crypto service generalized, as each attempt
  leaves them for the next.
* `registers_until_accepted` — the main statement.

A pause is what a timer makes of the interval between two attempts. An interval that is
longer than a timer runs is cut short (`long_interval_cut_short`), and one of whole
milliseconds up to that is kept.
-/

namespace NodeAdmission.Service

open Http (RemoteError)

/-! ### Attempts

`nthAttempt` tells when the attempt after `n` refusals begins and what comes of it, without any loop
and without a limit to the number of attempts. The loop is compared with it. -/

structure Attempt where
  client : String
  start : Instant
  /-- How long the answer took, in nanoseconds. -/
  lasting : Nat
  result : Except RemoteError Unit

variable {ω : Type} (register : (client : String) → Timed ω (Except RemoteError Unit))
    (client : String)

/-- The attempt that is made at an instant, in a state of the crypto service. -/
def attemptAt (now : Instant) (w : ω) : Attempt :=
  let r := register client now w
  ⟨client, now, r.elapsed, r.value⟩

/-- The attempt with the number `i`, counted from zero, if each is made a pause
after the one before it. -/
def nthAttempt (pause : Nat) : (i : Nat) → Instant → ω → Attempt
  | 0, now, w => attemptAt register client now w
  | i + 1, now, w =>
    let r := register client now w
    nthAttempt pause i (now + r.elapsed + pause) r.world

/-- The registrar of a crypto service. Every attempt is written down beside the
state of the service. -/
def Registrar.recorded : Registrar (Timed (ω × List Attempt)) where
  register client := fun now w =>
    let r := register client now w.1
    ⟨r.value, r.elapsed, (r.world, w.2 ++ [attemptAt register client now w.1])⟩
  sleep := Timed.sleep
  log _ := pure ()

def firstAttempts (pause n : Nat) (now : Instant) (w : ω) : List Attempt :=
  (List.range n).map fun i => nthAttempt register client pause i now w

/-- How long the crypto service takes for some attempts altogether. -/
def answering (attempts : List Attempt) : Nat := (attempts.map Attempt.lasting).sum

theorem answering_cons (a : Attempt) (attempts : List Attempt) :
    answering (a :: attempts) = a.lasting + answering attempts := List.sum_cons

section

variable {register client} {pause i n : Nat} {now : Instant} {w : ω}

theorem client_nthAttempt : (nthAttempt register client pause i now w).client = client := by
  induction i generalizing now w with
  | zero => rfl
  | succ i ih => exact ih

/-- An attempt begins a pause after the answer to the one before it. -/
theorem start_nthAttempt_succ :
    (nthAttempt register client pause (i + 1) now w).start =
      (nthAttempt register client pause i now w).start +
        (nthAttempt register client pause i now w).lasting + pause := by
  induction i generalizing now w with
  | zero => rfl
  | succ i ih => exact ih

/-- The first attempt, and the others as they follow from what it leaves behind. -/
theorem firstAttempts_succ :
    firstAttempts register client pause (n + 1) now w =
      attemptAt register client now w ::
        firstAttempts register client pause n (now + (register client now w).elapsed + pause)
          (register client now w).world := by
  rw [firstAttempts, List.range_succ_eq_map, List.map_cons, List.map_map]
  rfl

/-! ### One attempt of the loop -/

variable {retry : Duration} {failures : UInt32} {budget k : Nat} {attempts : List Attempt}

@[simp] theorem sleep_recorded : (Registrar.recorded register).sleep = Timed.sleep := rfl

@[simp] theorem log_recorded (line : LogLine) :
    (Registrar.recorded register).log line = pure () := rfl

theorem register_recorded (now : Instant) (w : ω) (attempts : List Attempt) :
    (Registrar.recorded register).register client now (w, attempts) =
      ⟨(register client now w).value, (register client now w).elapsed,
        ((register client now w).world, attempts ++ [attemptAt register client now w])⟩ := rfl

/-- An attempt that is accepted ends the loop. -/
theorem registerFrom_of_accepted {u : Unit} (h : (register client now w).value = .ok u) :
    registerFrom (.recorded register) client retry failures (budget + 1) now (w, attempts) =
      ⟨some (failures + 1), (register client now w).elapsed,
        ((register client now w).world, attempts ++ [attemptAt register client now w])⟩ := by
  rw [registerFrom, Timed.bind_apply, register_recorded, h]
  rfl

/-- After an attempt that is refused, and a pause, it all begins anew. -/
theorem registerFrom_of_refused {e : RemoteError} (h : (register client now w).value = .error e) :
    let r := register client now w
    let later := registerFrom (.recorded register) client retry (failures + 1) budget
      (now + r.elapsed + retry.timer) (r.world, attempts ++ [attemptAt register client now w])
    registerFrom (.recorded register) client retry failures (budget + 1) now (w, attempts) =
      ⟨later.value, r.elapsed + retry.timer + later.elapsed, later.world⟩ := by
  rw [registerFrom, Timed.bind_apply, register_recorded, h]
  simp only [log_recorded, sleep_recorded, Timed.bind_apply, Timed.pure_apply, Timed.sleep,
    Nat.zero_add, Nat.add_zero, Nat.add_assoc]

/-! ### All attempts -/

/-- The loop makes the attempts up to the first one that is accepted, and stops there. -/
theorem registerFrom_accepted (failures : UInt32) (attempts : List Attempt) (hbudget : k < budget)
    (hrefused : ∀ i < k, ∃ e, (nthAttempt register client retry.timer i now w).result = .error e)
    (haccepted : (nthAttempt register client retry.timer k now w).result = .ok ()) :
    let r := registerFrom (.recorded register) client retry failures budget now (w, attempts)
    let made := firstAttempts register client retry.timer (k + 1) now w
    r.value = some (failures + UInt32.ofNat (k + 1)) ∧ r.world.2 = attempts ++ made ∧
      r.elapsed = answering made + k * retry.timer := by
  obtain ⟨budget, rfl⟩ := Nat.exists_eq_add_one_of_ne_zero (Nat.ne_zero_of_lt hbudget)
  induction k generalizing failures budget now w attempts with
  | zero =>
    rw [registerFrom_of_accepted haccepted]
    exact ⟨rfl, rfl, by simp [answering, firstAttempts, nthAttempt, attemptAt]⟩
  | succ k ih =>
    obtain ⟨e, he⟩ := hrefused 0 (Nat.succ_pos k)
    obtain ⟨budget, rfl⟩ : ∃ b, budget = b + 1 :=
      Nat.exists_eq_add_one_of_ne_zero (by omega)
    -- The attempts after the first are those of a loop that begins a pause later.
    have hlater := ih (failures + 1) (attempts ++ [attemptAt register client now w])
      (fun i hi => hrefused (i + 1) (Nat.succ_lt_succ hi)) haccepted budget (by omega)
    rw [registerFrom_of_refused he, firstAttempts_succ]
    obtain ⟨hvalue, hmade, helapsed⟩ := hlater
    refine ⟨?_, ?_, ?_⟩
    · -- The number of attempts, counted in 32 bits.
      rw [hvalue, UInt32.ofNat_add (k + 1) 1, UInt32.add_comm (UInt32.ofNat (k + 1)),
        ← UInt32.add_assoc]
      rfl
    · rw [hmade, List.append_assoc]
      rfl
    · have hfirst :
          (attemptAt register client now w).lasting = (register client now w).elapsed := rfl
      have helapsed' := congrArg ((register client now w).elapsed + retry.timer + ·) helapsed
      refine helapsed'.trans ?_
      rw [answering_cons, Nat.succ_mul]
      omega

/-- As long as no attempt is accepted the loop goes on. -/
theorem registerFrom_refused (failures : UInt32) (attempts : List Attempt)
    (hrefused : ∀ i < budget,
      ∃ e, (nthAttempt register client retry.timer i now w).result = .error e) :
    let r := registerFrom (.recorded register) client retry failures budget now (w, attempts)
    r.value = none ∧
      r.world.2 = attempts ++ firstAttempts register client retry.timer budget now w := by
  induction budget generalizing failures now w attempts with
  | zero => exact ⟨rfl, (List.append_nil _).symm⟩
  | succ budget ih =>
    obtain ⟨e, he⟩ := hrefused 0 (Nat.succ_pos budget)
    obtain ⟨hvalue, hmade⟩ := ih (failures + 1) (attempts ++ [attemptAt register client now w])
      (fun i hi => hrefused (i + 1) (Nat.succ_lt_succ hi))
    rw [registerFrom_of_refused he, firstAttempts_succ]
    exact ⟨hvalue, by rw [hmade, List.append_assoc]; rfl⟩

end

/-- A service registers with the first attempt that is accepted. Suppose each attempt is made a
pause after the one before it was refused, where a pause is how long a timer runs that is set to the
interval, and that is the interval itself if it is of whole milliseconds and not too long. If the
crypto service then refuses `k` attempts and accepts the next one, these are all that are made,
however many more may be made; their number is the result, and all that time passes for are their
answers and `k` pauses. If the crypto service refuses every attempt, there is no end to them. -/
theorem registers_until_accepted (retry : Duration) (now : Instant) (w : ω) :
    let pause := retry.timer
    let attempt := fun i => nthAttempt register client pause i now w
    let run := fun budget => registerWithin (.recorded register) client retry budget now (w, [])
    (∀ k, k + 1 < 2 ^ 32 → (∀ i < k, ∃ e, (attempt i).result = .error e) →
      (attempt k).result = .ok () →
      ∀ budget, k < budget →
        (∃ n, (run budget).value = some n ∧ n.toNat = k + 1) ∧
        (run budget).world.2 = (List.range (k + 1)).map attempt ∧
        (run budget).elapsed =
          ((List.range (k + 1)).map fun i => (attempt i).lasting).sum + k * pause) ∧
    ((∀ i, ∃ e, (attempt i).result = .error e) →
      ∀ budget, (run budget).value = none ∧
        (run budget).world.2 = (List.range budget).map attempt) ∧
    (attempt 0).start = now ∧
    (∀ i, (attempt i).client = client ∧
      (attempt (i + 1)).start = (attempt i).start + (attempt i).lasting + pause) ∧
    (retry.nanos ≤ Duration.longestTimer → 1000000 ∣ retry.nanos → pause = retry.nanos) := by
  intro pause attempt run
  refine ⟨?_, ?_, rfl, fun i => ⟨client_nthAttempt, start_nthAttempt_succ⟩, Duration.timer_eq_nanos⟩
  · intro k hk hrefused haccepted budget hbudget
    obtain ⟨hvalue, hmade, helapsed⟩ :=
      registerFrom_accepted 0 [] hbudget hrefused haccepted
    refine ⟨⟨_, hvalue, ?_⟩, hmade, ?_⟩
    · -- The counter has not wrapped around, as there are fewer attempts than it can count.
      rw [UInt32.zero_add, UInt32.toNat_ofNat_of_lt' hk]
    · rw [answering, firstAttempts, List.map_map] at helapsed
      exact helapsed
  · intro hrefused budget
    exact registerFrom_refused 0 [] fun i _ => hrefused i

/-! ### Services that refuse -/

/-- A crypto service that takes a millisecond for each registration and refuses some of
them, counted from zero. -/
def refusing (refused : Nat → Bool) : String → Timed Nat (Except RemoteError Unit) :=
  fun _ _ asked =>
  ⟨if refused asked then .error (.unexpectedStatus 503 "") else .ok (), 1000000, asked + 1⟩

/-- Which attempts are refused depends on their numbers alone. -/
theorem result_nthAttempt_refusing (refused : Nat → Bool) (client : String) (pause i : Nat)
    (now : Instant)
    (asked : Nat) :
    (nthAttempt (refusing refused) client pause i now asked).result =
      if refused (asked + i) then .error (.unexpectedStatus 503 "") else .ok () := by
  induction i generalizing now asked with
  | zero => rfl
  | succ i ih =>
    rw [← Nat.add_assoc, Nat.add_right_comm]
    exact ih _ (asked + 1)

theorem refused_nthAttempt {refused : Nat → Bool} {i : Nat} (h : refused i = true) (client : String)
    (pause : Nat) (now : Instant) :
    ∃ e, (nthAttempt (refusing refused) client pause i now 0).result = .error e := by
  rw [result_nthAttempt_refusing, Nat.zero_add, h]
  exact ⟨_, rfl⟩

/-- With ten seconds between attempts a service that is refused three times is registered
with the fourth attempt, after thirty seconds and the time for the answers. One that is
always refused goes on. -/
theorem fourth_attempt_accepted :
    let run := fun refused budget =>
      registerWithin (.recorded (refusing refused)) "NodeAuthServer" (.ofSecs 10) budget 0 (0, [])
    ((∃ n, (run (· < 3) 1000).value = some n ∧ n.toNat = 4) ∧
      (run (· < 3) 1000).world.2.map Attempt.start = [0, 10001000000, 20002000000, 30003000000] ∧
      (run (· < 3) 1000).elapsed = 30004000000) ∧
    (∀ budget, (run (fun _ => true) budget).value = none ∧
      (run (fun _ => true) budget).world.2.length = budget) ∧
    (Duration.ofSecs 10).timer = (Duration.ofSecs 10).nanos := by
  intro run
  obtain ⟨haccepts, -, -, -, hpause⟩ :=
    registers_until_accepted (refusing (· < 3)) "NodeAuthServer" (.ofSecs 10) 0 0
  obtain ⟨-, hrefuses, -⟩ :=
    registers_until_accepted (refusing fun _ => true) "NodeAuthServer" (.ofSecs 10) 0 0
  refine ⟨?_, ?_, hpause (by decide) (by decide)⟩
  · obtain ⟨hvalue, hmade, helapsed⟩ := haccepts 3 (by decide)
      (fun i hi => refused_nthAttempt (decide_eq_true hi) _ _ _) rfl 1000 (by decide)
    refine ⟨hvalue, ?_, helapsed.trans (by decide)⟩
    rw [hmade]
    decide
  · intro budget
    obtain ⟨hvalue, hmade⟩ := hrefuses (fun i => refused_nthAttempt rfl _ _ _) budget
    refine ⟨hvalue, ?_⟩
    rw [hmade, List.length_map, List.length_range]

/-- With more than thirty years between attempts the second one is made too early. -/
theorem long_interval_cut_short :
    let retry := Duration.ofSecs 1099511628
    let run := registerWithin (.recorded (refusing (· < 1))) "NodeAuthServer" retry 2 0 (0, [])
    run.value = some 2 ∧ ∃ first second, run.world.2 = [first, second] ∧ first.lasting = 1000000 ∧
      second.start = first.start + first.lasting + Duration.longestTimer ∧
      second.start ≠ first.start + first.lasting + retry.nanos := by
  refine ⟨rfl, _, _, rfl, rfl, ?_, ?_⟩ <;> decide

end NodeAdmission.Service
