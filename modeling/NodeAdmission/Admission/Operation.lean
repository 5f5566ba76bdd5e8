import NodeAdmission.Admission.Registry

/-!
# Operations on the registry

Everything that can be done to the record of one name, with the answer that it gives. A name without
a record answers `Answer.absent` to all that needs one.

The control loop uses these operations only in certain orders. Here they are given as data, so that
they can be carried out in any order and compared name by name: an operation on one name neither
reads nor changes the record of another.
-/

namespace NodeAdmission.Admission

namespace Registry

/-- What is done to the record of a name. -/
inductive Operation where
  | enroll (ip : String)
  | evict
  | get
  | begin
  | abandon (now : Instant)
  | verify
  | exempt
  | move (ip : String)
  | elapsed (now : Instant) (cooldown : Duration)
deriving DecidableEq

inductive Answer where
  | absent
  | record (r : NodeRecord)
  | challenge (c : Challenge)
  | elapsed (b : Bool)
deriving DecidableEq

/-- A record, or nothing. -/
def Answer.ofRecord? : Option NodeRecord → Answer
  | none => .absent
  | some r => .record r

/-- What an operation makes of a record. -/
def Operation.change (fresh : Challenge) : Operation → NodeRecord → NodeRecord
  | .begin, r => r.beginAttempt fresh
  | .abandon now, r => r.abandonAttempt now
  | .verify, r => r.markVerified
  | .exempt, r => r.markExempt
  | .move ip, r => { r with ip }
  | _, r => r

def after (g : Registry) (fresh : Challenge) (name : String) : Operation → Registry
  | .enroll ip => g.enroll name ip
  | .evict => g.evict name
  | .get => g
  | .elapsed _ _ => g
  | op => g.modify name (op.change fresh)

def answer (g : Registry) (fresh : Challenge) (name : String) (op : Operation) : Answer :=
  match op with
  | .evict => .ofRecord? (g.get? name)
  | .elapsed now cooldown =>
    match g.get? name with
    | none => .absent
    | some r => .elapsed (r.cooldownElapsed now cooldown)
  -- The challenge that is pending, or the fresh one that becomes so.
  | .begin =>
    match g.get? name with
    | none => .absent
    | some r => .challenge (r.challenge?.getD fresh)
  | _ => .ofRecord? ((g.after fresh name op).get? name)

end Registry
end NodeAdmission.Admission
