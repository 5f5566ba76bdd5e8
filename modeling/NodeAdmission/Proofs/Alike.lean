import NodeAdmission.Admission.Record

/-!
# Records that differ in their challenges

Challenges are drawn at random, so two runs that do the same have records that differ in nothing
else. `NodeRecord.Alike K` says so of two records, where `K` tells which challenge answers to which.
Whatever is done to both of them alike leaves them alike.

The relation `K` is a parameter because it grows during a run: with each drawing one more pair of
challenges answers to each other, and records that were alike before are alike afterwards
(`NodeRecord.Alike.mono`).
-/

namespace NodeAdmission.Admission

variable {K : Challenge → Challenge → Prop}

theorem rel_mono {α β : Type} {R S : α → β → Prop} {a? : Option α} {b? : Option β}
    (h : Option.Rel R a? b?) (hRS : ∀ a b, R a b → S a b) : Option.Rel S a? b? := by
  cases h with
  | none => exact .none
  | some h => exact .some (hRS _ _ h)

/-- The records are the same but for their challenges, which are related by `K`. -/
structure NodeRecord.Alike (K : Challenge → Challenge → Prop) (r r' : NodeRecord) : Prop where
  name : r'.name = r.name
  ip : r'.ip = r.ip
  verified : r'.verified = r.verified
  challenge : Option.Rel K r.challenge? r'.challenge?
  nextCheckAt : r'.nextCheckAt? = r.nextCheckAt?

namespace NodeRecord.Alike

variable {r r' : NodeRecord} {ch ch' : Challenge}

theorem refl (hK : ∀ ch, K ch ch) (r : NodeRecord) : r.Alike K r := by
  refine ⟨rfl, rfl, rfl, ?_, rfl⟩
  cases r.challenge? with
  | none => exact .none
  | some ch => exact .some (hK ch)

theorem mono {K' : Challenge → Challenge → Prop} (h : r.Alike K r')
    (hK : ∀ ch ch', K ch ch' → K' ch ch') : r.Alike K' r' :=
  ⟨h.name, h.ip, h.verified, rel_mono h.challenge hK, h.nextCheckAt⟩

theorem new (name ip : String) : (NodeRecord.new name ip).Alike K (.new name ip) :=
  ⟨rfl, rfl, rfl, .none, rfl⟩

theorem eq (h : r.Alike Eq r') : r' = r := by
  obtain ⟨name, ip, verified, challenge?, next?⟩ := r
  obtain ⟨name', ip', verified', challenge?', next?'⟩ := r'
  obtain ⟨rfl, rfl, rfl, hchallenge, rfl⟩ := h
  cases hchallenge with
  | none => rfl
  | some h =>
    obtain rfl := h
    rfl

/-- A pending challenge is kept in both records, or drawn for both. -/
theorem beginAttempt (h : r.Alike K r') (hfresh : K ch ch') :
    (r.beginAttempt ch).Alike K (r'.beginAttempt ch') := by
  refine ⟨h.name, h.ip, h.verified, ?_, h.nextCheckAt⟩
  have hchallenge := h.challenge
  unfold NodeRecord.beginAttempt
  generalize r.challenge? = ch? at hchallenge ⊢
  generalize r'.challenge? = ch?' at hchallenge ⊢
  cases hchallenge with
  | none => exact .some hfresh
  | some hpending => exact .some hpending

theorem abandonAttempt (h : r.Alike K r') (now : Instant) :
    (r.abandonAttempt now).Alike K (r'.abandonAttempt now) :=
  ⟨h.name, h.ip, h.verified, .none, rfl⟩

theorem markVerified (h : r.Alike K r') : r.markVerified.Alike K r'.markVerified :=
  ⟨h.name, h.ip, rfl, .none, rfl⟩

theorem markExempt (h : r.Alike K r') : r.markExempt.Alike K r'.markExempt := h.markVerified

theorem move (h : r.Alike K r') (ip : String) :
    NodeRecord.Alike K { r with ip } { r' with ip } :=
  ⟨h.name, rfl, h.verified, h.challenge, h.nextCheckAt⟩

theorem cooldownElapsed (h : r.Alike K r') (now : Instant) (cooldown : Duration) :
    r'.cooldownElapsed now cooldown = r.cooldownElapsed now cooldown := by
  rw [NodeRecord.cooldownElapsed, h.nextCheckAt, NodeRecord.cooldownElapsed]

end NodeRecord.Alike

end NodeAdmission.Admission
