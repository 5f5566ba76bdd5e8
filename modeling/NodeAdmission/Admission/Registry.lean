import NodeAdmission.Admission.Record

/-!
# The registry

The records of all nodes that are known, at most one under each name. `Registry.enroll` adds a
record only under a name that is not known yet, `Registry.modify` changes the record of one name and
`Registry.evict` forgets one.

Each operation is described by what `Registry.get?` says afterwards (`get?_enroll`, `get?_modify`,
`get?_evict`), and nothing else looks at the entries but the counts. That a name has one record at
most is a field of the registry, so no invariant has to be carried for it.
-/

namespace NodeAdmission.Admission

/-- The records under their names. -/
structure Registry where
  entries : List (String × NodeRecord)
  nodup : (entries.map Prod.fst).Nodup

namespace Registry

def empty : Registry := ⟨[], .nil⟩

/-- The entry of a name in a list of entries. -/
def find (name : String) : List (String × NodeRecord) → Option NodeRecord
  | [] => none
  | (k, r) :: es => if k = name then some r else find name es

def get? (g : Registry) (name : String) : Option NodeRecord := find name g.entries

theorem find_eq_none_iff {name : String} {es : List (String × NodeRecord)} :
    find name es = none ↔ name ∉ es.map Prod.fst := by
  induction es with
  | nil => simp [find]
  | cons e es ih =>
    obtain ⟨k, r⟩ := e
    by_cases h : k = name
    · simp [find, h]
    · simp [find, h, ih, Ne.symm h]

/-- Applies a change to the entry of a name. -/
def change (name : String) (f : NodeRecord → NodeRecord) :
    List (String × NodeRecord) → List (String × NodeRecord)
  | [] => []
  | (k, r) :: es => if k = name then (k, f r) :: es else (k, r) :: change name f es

theorem map_fst_change (name : String) (f : NodeRecord → NodeRecord)
    (es : List (String × NodeRecord)) : (change name f es).map Prod.fst = es.map Prod.fst := by
  induction es with
  | nil => rfl
  | cons e es ih =>
    obtain ⟨k, r⟩ := e
    unfold change
    split <;> simp [ih]

def without (name : String) (es : List (String × NodeRecord)) : List (String × NodeRecord) :=
  es.filter (·.1 ≠ name)

/-! ### Operations -/

/-- Adds a record for a node that is seen for the first time; a record that
exists stays as it is. -/
def enroll (g : Registry) (name ip : String) : Registry :=
  if h : g.get? name = none then
    { entries := g.entries ++ [(name, .new name ip)]
      nodup := by
        rw [List.map_append, List.nodup_append]
        refine ⟨g.nodup, by simp, fun a ha b hb => ?_⟩
        simp only [List.map_cons, List.map_nil, List.mem_singleton] at hb
        rintro rfl
        exact find_eq_none_iff.1 h (hb ▸ ha) }
  else g

def modify (g : Registry) (name : String) (f : NodeRecord → NodeRecord) : Registry :=
  ⟨change name f g.entries, by rw [map_fst_change]; exact g.nodup⟩

def evict (g : Registry) (name : String) : Registry :=
  ⟨without name g.entries, g.nodup.sublist (List.filter_sublist.map _)⟩

def size (g : Registry) : Nat := g.entries.length

def isEmpty (g : Registry) : Bool := g.entries.isEmpty

def verifiedCount (g : Registry) : Nat := g.entries.countP (·.2.verified)

/-! ### What the operations do to a look-up -/

/-- An entry that is not in the first list is looked for in the second. -/
theorem find_append_of_none {name : String} {es fs : List (String × NodeRecord)}
    (h : find name es = none) : find name (es ++ fs) = find name fs := by
  induction es with
  | nil => rfl
  | cons e es ih =>
    obtain ⟨k, r⟩ := e
    by_cases hk : k = name
    · simp [find, hk] at h
    · simp only [find, hk, if_false] at h
      simpa [find, hk] using ih h

theorem find_append_of_some {name : String} {r : NodeRecord} {es fs : List (String × NodeRecord)}
    (h : find name es = some r) : find name (es ++ fs) = some r := by
  induction es with
  | nil => simp [find] at h
  | cons e es ih =>
    obtain ⟨k, s⟩ := e
    by_cases hk : k = name
    · simpa [find, hk] using h
    · simp only [find, hk, if_false] at h
      simpa [find, hk] using ih h

theorem find_change (name other : String) (f : NodeRecord → NodeRecord)
    (es : List (String × NodeRecord)) :
    find other (change name f es) =
      if other = name then (find other es).map f else find other es := by
  induction es with
  | nil => simp [change, find]
  | cons e es ih =>
    obtain ⟨k, r⟩ := e
    by_cases hk : k = name
    · by_cases ho : other = name
      · simp [change, find, hk, ho]
      · simp [change, find, hk, ho, Ne.symm ho]
    · by_cases ho : other = name
      · simp [change, find, hk, ho] at ih ⊢
        exact ih
      · simp [change, find, hk, ho] at ih ⊢
        rw [ih]

theorem find_without (name other : String) (es : List (String × NodeRecord)) :
    find other (without name es) = if other = name then none else find other es := by
  induction es with
  | nil => simp [without, find]
  | cons e es ih =>
    obtain ⟨k, r⟩ := e
    unfold without at ih ⊢
    by_cases hk : k = name
    · by_cases ho : other = name
      · simpa [hk, ho, find] using ih
      · simpa [hk, ho, find, Ne.symm ho] using ih
    · by_cases ho : other = name
      · simp [hk, ho, find] at ih ⊢
        exact ih
      · simp [hk, ho, find] at ih ⊢
        rw [ih]

/-- A name that is known keeps its record, with the address that it has. -/
theorem get?_enroll (g : Registry) (name ip other : String) :
    (g.enroll name ip).get? other =
      if other = name then some ((g.get? name).getD (.new name ip)) else g.get? other := by
  unfold enroll
  split
  · next h =>
    simp only [get?] at h ⊢
    by_cases ho : other = name
    · subst ho
      simp [find_append_of_none h, find, h]
    · cases hf : find other g.entries with
      | none => simp [find_append_of_none hf, find, ho, Ne.symm ho]
      | some r => simp [find_append_of_some hf, ho]
  · next h =>
    by_cases ho : other = name
    · subst ho
      obtain ⟨r, hr⟩ := Option.ne_none_iff_exists'.1 h
      simp [hr]
    · simp [ho]

theorem get?_modify (g : Registry) (name other : String) (f : NodeRecord → NodeRecord) :
    (g.modify name f).get? other =
      if other = name then (g.get? other).map f else g.get? other :=
  find_change name other f g.entries

theorem get?_evict (g : Registry) (name other : String) :
    (g.evict name).get? other = if other = name then none else g.get? other :=
  find_without name other g.entries

end Registry
end NodeAdmission.Admission
