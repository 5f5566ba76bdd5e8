import NodeAdmission.Text.Numeral

/-!
# Durations

A duration is a count of nanoseconds that fits 64 bits of whole seconds. Scaling and adding can
leave that range; both are partial and say so (`Duration.Overflow`).

A timer that is set to a duration does not run for just that time: it goes off at whole
milliseconds, and never later than after thirty years (`Duration.timer`).

`Duration.render` writes a duration in the largest unit with a non-zero whole part.
-/

namespace NodeAdmission

def nanosPerSecond : Nat := 1000000000

/-- The first count of nanoseconds that is no duration: 2^64 seconds. -/
def durationBound : Nat := Nat.pow 2 64 * nanosPerSecond

structure Duration where
  nanos : Nat
  nanos_lt : nanos < durationBound
deriving DecidableEq

namespace Duration

/-- Arithmetic that leaves the range of durations. -/
inductive Overflow where
  | scaling
  | adding
deriving DecidableEq, Repr

def Overflow.message : Overflow → String
  | .scaling => "overflow when multiplying duration by scalar"
  | .adding => "overflow when adding durations"

/-- The duration of `n` nanoseconds, if it is one. -/
def ofNanos? (n : Nat) : Option Duration :=
  if h : n < durationBound then some ⟨n, h⟩ else none

def ofSecs (s : UInt64) : Duration :=
  ⟨s.toNat * nanosPerSecond, Nat.mul_lt_mul_of_pos_right s.toNat_lt (by decide)⟩

def ofMillis (ms : UInt32) : Duration :=
  ⟨ms.toNat * 1000000,
    by have := ms.toNat_lt; simp only [durationBound, nanosPerSecond, Nat.pow_eq]; omega⟩

instance : Inhabited Duration := ⟨ofSecs 0⟩

@[simp] theorem nanos_ofSecs (s : UInt64) : (ofSecs s).nanos = s.toNat * nanosPerSecond := rfl

def secs (d : Duration) : Nat := d.nanos / nanosPerSecond

@[simp] theorem secs_ofSecs (s : UInt64) : (ofSecs s).secs = s.toNat := by
  simp [secs, Nat.mul_div_cancel _ (show 0 < nanosPerSecond by decide)]

def scale (d : Duration) (k : Nat) : Except Overflow Duration :=
  if h : d.nanos * k < durationBound then .ok ⟨d.nanos * k, h⟩ else .error .scaling

def add (d e : Duration) : Except Overflow Duration :=
  if h : d.nanos + e.nanos < durationBound then .ok ⟨d.nanos + e.nanos, h⟩ else .error .adding

/-! ### Timers -/

/-- The longest time that a timer runs, in nanoseconds: thirty years of 365 days. -/
def longestTimer : Nat := 30 * 365 * 86400 * nanosPerSecond

/-- How long a timer runs that is set to the duration, in nanoseconds. Timers go off at whole
milliseconds, so it is not before the duration is over, unless that is longer than a timer runs. -/
def timer (d : Duration) : Nat := min ((d.nanos + 999999) / 1000000 * 1000000) longestTimer

/-- A timer that is set to whole milliseconds takes just these. -/
theorem timer_eq_nanos {d : Duration} (h : d.nanos ≤ longestTimer) (whole : 1000000 ∣ d.nanos) :
    d.timer = d.nanos := by
  unfold timer
  omega

/-! ### Writing -/

/-- The digits of a fraction of `width` places, without the zeros at its end. -/
def fractionDigits (width n : Nat) : List Char :=
  let ds := Nat.toDigits 10 n
  let padded := List.replicate (width - ds.length) '0' ++ ds
  (padded.reverse.dropWhile (· = '0')).reverse

/-- `n` in units of `10 ^ width`. -/
def inUnit (n width : Nat) (unit : String) : String :=
  let fraction := fractionDigits width (n % Nat.pow 10 width)
  Numeral.digits (n / Nat.pow 10 width) ++
    (if fraction.isEmpty then "" else "." ++ String.ofList fraction) ++ unit

/-- The duration as a decimal number in the largest of `s`, `ms`, `µs` and `ns` whose whole part is
not zero, with every digit that is not a zero at the end. -/
def render (d : Duration) : String :=
  if d.nanos ≥ 1000000000 then inUnit d.nanos 9 "s"
  else if d.nanos ≥ 1000000 then inUnit d.nanos 6 "ms"
  else if d.nanos ≥ 1000 then inUnit d.nanos 3 "µs"
  else inUnit d.nanos 0 "ns"

end Duration
end NodeAdmission
