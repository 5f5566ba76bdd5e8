import NodeAdmission.Duration

/-!
# Actions that take time

The other side of every call (a peer, a child process, the clock) is a world that answers after some
time. A `Timed` action is told the present instant and the state of that world; its `Reply` holds
the answer, how long it took and the state that it leaves.

Since a reply says how long it took and not what time it is, time never goes back. Two actions one
after the other take as long as both together, and the second begins when the first has ended: that
is the bind of the monad, and it is why whole services can be written with `do` and still be asked
what time it is at every step.
-/

namespace NodeAdmission

/-- An instant, in nanoseconds since the start. -/
abbrev Instant := Nat

structure Reply (ω α : Type) where
  value : α
  /-- How long the action took, in nanoseconds. -/
  elapsed : Nat
  world : ω

/-- An action on a world `ω` that begins at an instant. -/
def Timed (ω α : Type) : Type := Instant → ω → Reply ω α

namespace Timed

instance : Monad (Timed ω) where
  pure a := fun _ w => ⟨a, 0, w⟩
  bind x f := fun now w =>
    let r := x now w
    let s := f r.value (now + r.elapsed) r.world
    ⟨s.value, r.elapsed + s.elapsed, s.world⟩

theorem pure_apply (a : α) (now : Instant) (w : ω) : (pure a : Timed ω α) now w = ⟨a, 0, w⟩ := rfl

theorem bind_apply (x : Timed ω α) (f : α → Timed ω β) (now : Instant) (w : ω) :
    (x >>= f) now w =
      ⟨(f (x now w).value (now + (x now w).elapsed) (x now w).world).value,
        (x now w).elapsed + (f (x now w).value (now + (x now w).elapsed) (x now w).world).elapsed,
        (f (x now w).value (now + (x now w).elapsed) (x now w).world).world⟩ := rfl

theorem map_apply (f : α → β) (x : Timed ω α) (now : Instant) (w : ω) :
    (f <$> x) now w = ⟨f (x now w).value, (x now w).elapsed, (x now w).world⟩ := rfl

instance : LawfulMonad (Timed ω) :=
  .mk' (Timed ω)
    (fun x => by funext now w; simp [map_apply])
    (fun a f => by funext now w; simp [bind_apply, pure_apply])
    (fun x f g => by funext now w; simp [bind_apply, Nat.add_assoc])

/-- Lets time pass until a timer goes off. -/
def sleep (d : Duration) : Timed ω Unit := fun _ w => ⟨(), d.timer, w⟩

def modify (f : ω → ω) : Timed ω Unit := fun _ w => ⟨(), 0, f w⟩

end Timed
end NodeAdmission
