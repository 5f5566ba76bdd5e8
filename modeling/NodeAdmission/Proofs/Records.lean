import NodeAdmission.Admission.Cycle
import NodeAdmission.Proofs.Transcript

/-!
# Changes to the registry

Everything that the control loop does to its registry concerns one name at a time. `Registry.Puts`
says what is recorded under that name afterwards and that nothing else has changed, and each
operation is described by it once: `puts_enroll`, `puts_modify`, `puts_evict`, and
`Controller.beginAttempt_puts` for the beginning of an attempt.

The relation is on what can be looked up and not on the lists of entries. Where an entry stands in
the list depends on the order in which nodes were met, and nothing that is proved later should
depend on that. Since changes of one name absorb each other (`Puts.trans`), a whole cycle comes
down to one such change.
-/

namespace NodeAdmission.Admission

namespace Registry

variable {g g' g'' : Registry} {name : String} {r : NodeRecord} {r? s? : Option NodeRecord}

/-- Under `name` the registry `g'` holds `r?`, under all other names what `g` holds. -/
def Puts (g : Registry) (name : String) (r? : Option NodeRecord) (g' : Registry) : Prop :=
  ∀ other, g'.get? other = if other = name then r? else g.get? other

theorem Puts.self (h : g.Puts name r? g') : g'.get? name = r? := by
  rw [h name, if_pos rfl]

theorem Puts.other (h : g.Puts name r? g') {other : String} (hne : other ≠ name) :
    g'.get? other = g.get? other := by
  rw [h other, if_neg hne]

/-- The later change of a name is the one that counts. -/
theorem Puts.trans (h : g.Puts name r? g') (h' : g'.Puts name s? g'') : g.Puts name s? g'' := by
  intro other
  rw [h' other]
  by_cases hne : other = name
  · rw [if_pos hne, if_pos hne]
  · rw [if_neg hne, if_neg hne, h.other hne]

/-- Leaving a registry alone is to record again what is there. -/
theorem puts_get? (g : Registry) (name : String) : g.Puts name (g.get? name) g := by
  intro other
  by_cases hne : other = name
  · rw [if_pos hne, hne]
  · rw [if_neg hne]

/-- A new name gets a fresh record. -/
theorem puts_enroll (h : g.get? name = none) (ip : String) :
    g.Puts name (some (.new name ip)) (g.enroll name ip) := by
  intro other
  rw [get?_enroll, h, Option.getD_none]

theorem puts_modify (h : g.get? name = some r) (f : NodeRecord → NodeRecord) :
    g.Puts name (some (f r)) (g.modify name f) := by
  intro other
  rw [get?_modify]
  by_cases hne : other = name
  · rw [if_pos hne, if_pos hne, hne, h, Option.map_some]
  · rw [if_neg hne, if_neg hne]

/-- Under each name there is one entry, so an entry that is there is the one that is found. -/
theorem find_of_mem {es : List (String × NodeRecord)} (hnodup : (es.map Prod.fst).Nodup)
    (h : (name, r) ∈ es) : find name es = some r := by
  induction es with
  | nil => cases h
  | cons e es ih =>
    obtain ⟨k, s⟩ := e
    rw [List.map_cons, List.nodup_cons] at hnodup
    rcases List.mem_cons.mp h with heq | h
    · cases heq
      simp [find]
    · -- The first entry is another one, and names are not repeated.
      have hne : k ≠ name := by
        rintro rfl
        exact hnodup.1 (List.mem_map.mpr ⟨_, h, rfl⟩)
      simp [find, hne, ih hnodup.2 h]

theorem get?_of_mem (h : (name, r) ∈ g.entries) : g.get? name = some r := find_of_mem g.nodup h

/-- The names of the entries are those under which something is recorded. -/
theorem mem_names_iff : name ∈ g.entries.map Prod.fst ↔ ∃ r, g.get? name = some r := by
  rw [← Option.ne_none_iff_exists', ne_eq, get?, find_eq_none_iff, Decidable.not_not]

theorem puts_evict (g : Registry) (name : String) : g.Puts name none (g.evict name) :=
  g.get?_evict name

end Registry

/-! ### Beginning an attempt -/

theorem NodeRecord.beginAttempt_of_some {r : NodeRecord} {pending : Challenge}
    (h : r.challenge? = some pending) (fresh : Challenge) : r.beginAttempt fresh = r := by
  rw [beginAttempt, h, Option.getD_some, ← h]

/-- Beginning an attempt writes one record and makes no call. A challenge that is pending is kept,
so the record may well be the one that was there. -/
theorem Controller.beginAttempt_puts (env : Environment ω) {c : Controller ω} {name : String}
    {r : NodeRecord} (h : c.registry.get? name = some r) :
    c.registry.Puts name (some (r.beginAttempt (env.challenges c.session.drawn)))
        (c.beginAttempt env name).registry ∧
      c.session.Calls env [] (c.beginAttempt env name).session := by
  unfold Controller.beginAttempt
  rw [h]
  cases hc : r.challenge? with
  | none =>
    simp only [hc]
    exact ⟨Registry.puts_modify h _, Session.calls_draw _ _⟩
  | some pending =>
    simp only [hc]
    rw [NodeRecord.beginAttempt_of_some hc, ← h]
    exact ⟨Registry.puts_get? _ _, .refl _⟩

theorem Controller.beginAttempt_drawn (env : Environment ω) {c : Controller ω} {name : String}
    {r : NodeRecord} (h : c.registry.get? name = some r) :
    (c.beginAttempt env name).session.drawn =
      if r.challenge? = none then c.session.drawn + 1 else c.session.drawn := by
  unfold Controller.beginAttempt
  rw [h]
  cases hc : r.challenge? <;> simp [hc, Session.draw]

end NodeAdmission.Admission
