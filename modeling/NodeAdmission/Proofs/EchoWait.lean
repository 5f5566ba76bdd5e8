import NodeAdmission.Proofs.Deadline

/-!
# The wait for an echo

The program that probes is told to wait for every reply whole seconds, and at least one, while the
deadline counts the wait as it was set. So the deadline allows for every reply just if the wait is a
second or more, or the second that is added makes up for what the echoes were given on top.

* `allowance_of_second_le`, `allowance_of_lt_second` — the two sides of the lower bound of a second.
* `deadline_covers_iff` — from these, when the deadline allows for every reply.
* `allowed_echoes_awaited` — the main statement. If the deadline covers the allowance, a program
  that has its replies in time is never cut off; if it does not, one that has them may be
  (`waiting_echoes_cut_off`).
* `Server.Config.deadline_covers_iff` — of the configurations that the server accepts those are
  affected that wait for no time and send more than one echo.
-/

namespace NodeAdmission

namespace Cluster.Probe

/-- The nanoseconds that the program may wait as it is told: its wait for every echo, of which
there is at least one. -/
def allowance (p : Probe) : Nat := max p.count.toNat 1 * p.waitArg * nanosPerSecond

variable {p : Probe} {limit : Duration} {ip : String} {lasting : Nat} {process : Subprocess.Ended}
  {m : Type → Type} [Monad m] [LawfulMonad m] {runner : Subprocess.Runner m}

/-- A wait of a second or more is told in whole seconds, rounded down. -/
theorem allowance_of_second_le (h : nanosPerSecond ≤ p.wait.nanos) :
    p.allowance ≤ max p.count.toNat 1 * p.wait.nanos := by
  have hsecs : p.waitArg = p.wait.nanos / nanosPerSecond :=
    Nat.max_eq_left (Nat.div_pos h (by decide))
  rw [allowance, hsecs, Nat.mul_assoc]
  exact Nat.mul_le_mul_left _ (Nat.div_mul_le_self _ _)

/-- For a shorter wait the program is told a second, which is more than was set. -/
theorem allowance_of_lt_second (h : p.wait.nanos < nanosPerSecond) :
    p.allowance = max p.count.toNat 1 * p.wait.nanos +
      max p.count.toNat 1 * (nanosPerSecond - p.wait.nanos) := by
  have hsecs : p.waitArg = 1 := by
    rw [waitArg, Duration.secs, Nat.div_eq_of_lt h]
    rfl
  rw [allowance, hsecs, Nat.mul_one, ← Nat.mul_add, Nat.add_sub_cancel' h.le]

/-- The deadline allows for every reply if the wait is a second or more, or if one second makes up
for all that the waits are short of one. -/
theorem deadline_covers_iff (h : p.deadline = .ok limit) :
    p.allowance ≤ limit.nanos ↔ nanosPerSecond ≤ p.wait.nanos ∨
      max p.count.toNat 1 * (nanosPerSecond - p.wait.nanos) ≤ nanosPerSecond := by
  rw [deadline_eq_ok_iff.mp h, patience, Nat.mul_comm p.wait.nanos]
  rcases Nat.lt_or_ge p.wait.nanos nanosPerSecond with hshort | hlong
  · rw [allowance_of_lt_second hshort, Nat.add_le_add_iff_left]
    exact ⟨.inr, fun h => h.resolve_left (Nat.not_le.mpr hshort)⟩
  · have hle := allowance_of_second_le hlong
    exact ⟨fun _ => .inl hlong, fun _ => by omega⟩

theorem run_of_ended (h : p.deadline = .ok limit)
    (hrunner : runner (p.command ip) = pure (.ended lasting process)) :
    p.run runner ip = pure (.ok (decide (lasting ≤ limit.timer) && process.status.isSuccess)) := by
  rw [run_of_deadline h, hrunner, map_pure, Subprocess.Outcome.within]
  split_ifs with hin
  · simp [conclude, hin]
  · simp [conclude, hin]

/-- The program is told a number of seconds to wait for each reply. The deadline allows for every
echo that number of seconds just if the wait that was set is at least one second, or all the echoes
together lack at most a second of theirs. If it does, a program that ends with success within the
time that it was allowed has reached the node, as long as a timer runs that long; whatever ends
after the timer has not. -/
theorem allowed_echoes_awaited (h : p.deadline = .ok limit) (ip : String) :
    ["-W", toString p.waitArg] <:+ (p.command ip).args ∧
      (p.allowance ≤ limit.nanos ↔ nanosPerSecond ≤ p.wait.nanos ∨
        max p.count.toNat 1 * (nanosPerSecond - p.wait.nanos) ≤ nanosPerSecond) ∧
      ∀ (m : Type → Type) [Monad m] [LawfulMonad m] (runner : Subprocess.Runner m) (lasting : Nat)
        (process : Subprocess.Ended), runner (p.command ip) = pure (.ended lasting process) →
          process.status.isSuccess = true →
          (p.allowance ≤ limit.nanos → lasting ≤ p.allowance → lasting ≤ Duration.longestTimer →
            p.run runner ip = pure (.ok true)) ∧
          (limit.timer < lasting → p.run runner ip = pure (.ok false)) := by
  refine ⟨⟨[ip, "-c", toString p.count.toNat], rfl⟩, deadline_covers_iff h, ?_⟩
  intro m _ _ runner lasting process hrunner hsuccess
  rw [run_of_ended h hrunner, hsuccess, Bool.and_true]
  constructor
  · intro hcovered hallowed hrun
    -- The timer runs as long as the limit, or as long as any timer runs.
    have htimer : lasting ≤ limit.timer := by
      unfold Duration.timer
      omega
    rw [decide_eq_true htimer]
  · intro hlate
    rw [decide_eq_false (Nat.not_le.mpr hlate)]

/-- With the default settings a program that needs the whole of its twenty seconds
has reached the node. -/
theorem default_echoes_awaited :
    let p : Probe := ⟨4, .ofSecs 5⟩
    let process : Subprocess.Ended := ⟨.exited 0, [], []⟩
    p.deadline = .ok (.ofSecs 21) ∧ p.allowance = 20 * nanosPerSecond ∧
      p.run (fun _ => (pure (.ended (20 * nanosPerSecond) process) : Timed Unit _)) "10.0.0.5" =
        pure (.ok true) := by
  intro p process
  have hdeadline : p.deadline = .ok (.ofSecs 21) := by decide +kernel
  have hallowance : p.allowance = 20 * nanosPerSecond := by decide +kernel
  obtain ⟨-, hiff, hruns⟩ := allowed_echoes_awaited hdeadline "10.0.0.5"
  have hcovered := hiff.mpr (.inl (by decide))
  obtain ⟨hreached, -⟩ := hruns (Timed Unit) (fun _ => pure (.ended (20 * nanosPerSecond) process))
    (20 * nanosPerSecond) process rfl rfl
  exact ⟨hdeadline, hallowance, hreached hcovered hallowance.ge (by decide)⟩

/-- With a wait of no time the program is told to wait a second for each of its four
replies, but it is cut off after one. A program that has all of them after three seconds has
not reached the node. -/
theorem waiting_echoes_cut_off :
    let p : Probe := ⟨4, .ofSecs 0⟩
    let runner : Subprocess.Runner (Timed Unit) := fun _ =>
      pure (.ended (3 * nanosPerSecond) ⟨.exited 0, [], []⟩)
    p.deadline = .ok (.ofSecs 1) ∧ ["-W", "1"] <:+ (p.command "10.0.0.5").args ∧
      p.allowance = 4 * nanosPerSecond ∧ ¬ p.allowance ≤ (Duration.ofSecs 1).nanos ∧
      p.run runner "10.0.0.5" = pure (.ok false) := by
  intro p runner
  have hdeadline : p.deadline = .ok (.ofSecs 1) := by decide +kernel
  have hrunner : runner (p.command "10.0.0.5") =
      pure (.ended (3 * nanosPerSecond) ⟨.exited 0, [], []⟩) := rfl
  have hlate : ¬ 3 * nanosPerSecond ≤ (Duration.ofSecs 1).timer := by decide +kernel
  refine ⟨hdeadline, by decide +kernel, by decide +kernel, by decide +kernel, ?_⟩
  rw [run_of_ended hdeadline hrunner, decide_eq_false hlate, Bool.false_and]

end Cluster.Probe

/-- A configuration that is accepted, with a deadline that is in range, allows for every reply
unless it waits for no time and sends more than one echo. -/
theorem Server.Config.deadline_covers_iff {lookup : Service.Lookup} {config : Server.Config}
    {limit : Duration} (h : Server.Config.read lookup = .ok config)
    (hdeadline : config.probe.deadline = .ok limit) :
    config.probe.allowance ≤ limit.nanos ↔
      config.pingWait.nanos ≠ 0 ∨ config.pingCount.toNat ≤ 1 := by
  obtain ⟨s, hs⟩ := read_pingWait h
  have hwait : config.pingWait.nanos = s.toNat * nanosPerSecond := by
    rw [hs, Duration.nanos_ofSecs]
  rw [Cluster.Probe.deadline_covers_iff hdeadline]
  show nanosPerSecond ≤ config.pingWait.nanos ∨
    max config.pingCount.toNat 1 * (nanosPerSecond - config.pingWait.nanos) ≤ nanosPerSecond ↔ _
  rw [hwait]
  simp only [nanosPerSecond]
  -- Whole seconds are none, or one at least.
  rcases Nat.eq_zero_or_pos s.toNat with hzero | hpos
  · rw [hzero]
    omega
  · omega

end NodeAdmission
