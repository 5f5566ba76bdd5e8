/-!
# Maps from text to text

The labels and annotations of a node. Entries are held in the order of their keys, each key once, so
two maps with the same entries are equal however they were put together. That the entries are sorted
is a field of the map: `TextMap.insert` is the only way to add one, and it keeps them sorted
(`pairwise_insertEntry`).
-/

namespace NodeAdmission.Json

structure TextMap where
  entries : List (String × String)
  sorted : entries.Pairwise (·.1 < ·.1)

namespace TextMap

def empty : TextMap := ⟨[], .nil⟩

instance : Inhabited TextMap := ⟨empty⟩

def get? (m : TextMap) (key : String) : Option String := m.entries.lookup key

/-- Puts an entry into a sorted list, in the place of an entry with the same key. -/
def insertEntry (key value : String) : List (String × String) → List (String × String)
  | [] => [(key, value)]
  | e :: es =>
    if key < e.1 then (key, value) :: e :: es
    else if key = e.1 then (key, value) :: es
    else e :: insertEntry key value es

theorem mem_insertEntry {key value : String} {e : String × String} {es : List (String × String)}
    (h : e ∈ insertEntry key value es) : e = (key, value) ∨ e ∈ es := by
  fun_induction insertEntry key value es <;> grind

theorem lt_of_not_lt_of_ne {s t : String} (h : ¬ s < t) (hne : s ≠ t) : t < s := by
  have := String.le_antisymm (a := s) (b := t)
  grind [String.not_lt]

/-- An entry goes where its key belongs, so the list stays sorted. -/
theorem pairwise_insertEntry (key value : String) {es : List (String × String)}
    (h : es.Pairwise (·.1 < ·.1)) : (insertEntry key value es).Pairwise (·.1 < ·.1) := by
  induction es with
  | nil => simp [insertEntry]
  | cons e es ih =>
    obtain ⟨head, tail⟩ := List.pairwise_cons.1 h
    unfold insertEntry
    split
    · next lt =>
      refine List.pairwise_cons.2 ⟨fun x hx => ?_, h⟩
      rcases List.mem_cons.1 hx with rfl | hx
      · exact lt
      · exact String.lt_trans lt (head x hx)
    · next nlt =>
      split
      · next eq => exact List.pairwise_cons.2 ⟨fun x hx => eq ▸ head x hx, tail⟩
      · next ne =>
        refine List.pairwise_cons.2 ⟨fun x hx => ?_, ih tail⟩
        rcases mem_insertEntry hx with rfl | hx
        · exact lt_of_not_lt_of_ne nlt ne
        · exact head x hx

/-- The map with an entry added; it takes the place of an entry with the same key. -/
def insert (m : TextMap) (key value : String) : TextMap :=
  ⟨insertEntry key value m.entries, pairwise_insertEntry key value m.sorted⟩

end TextMap
end NodeAdmission.Json
