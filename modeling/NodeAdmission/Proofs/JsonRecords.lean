import NodeAdmission.Proofs.JsonWriting

/-!
# What a JSON value says

A value says something without regard to how it is read: a text, the items of a list, the
entries of a map in any order, or the fields of a record. A record is an object that has the
member for a field `Once`, wherever it stands among the others; any other members may have any
other names and any values.

* `Parsed.IsText`, `Parsed.IsList`, `Parsed.IsMap` — texts, lists and maps, each with one lemma that
  the decoder finds what is said (`text_of_isText`, `list_of_isList`, `textMap_of_isMap`).
* `Once`, `AtMostOnce`, `Lacks` — how often a name occurs among the members.
* `Decoder.Field.Told`, `Decoder.Tell` — the members tell a field at most once, and in a way that
  its decoder understands.
* `Decoder.record_of_members` — the main statement: a record is read as what its members say.

The members come in any order, so what is known after some of them is not a function of their
number. It depends on the set of fields seen so far, and `known` gives it as a function of
these. The induction goes over the members with this set (`Tell.members_eq`), and unknown
members leave it as it is.
-/

namespace NodeAdmission.Json

variable {v : Parsed} {vs : List Parsed} {ps : List Piece} {m : List Piece × Parsed}
  {ms : List (List Piece × Parsed)} {s name other : String} {seen : List String}

/-! ### Texts, lists and maps -/

def Parsed.IsText (v : Parsed) (s : String) : Prop := ∃ ps, v = .string ps ∧ Means ps s.toList

def Named (m : List Piece × Parsed) (name : String) : Prop := Means m.1 name.toList

/-- The value is a list, and its items say in turn what `Says` takes them to say. -/
def Parsed.IsList (Says : Parsed → α → Prop) (v : Parsed) (as : List α) : Prop :=
  ∃ vs, v = .array vs .closed ∧ List.Forall₂ Says vs as

/-- The value is an object whose members are the entries of the map, in any order. -/
def Parsed.IsMap (v : Parsed) (m : TextMap) : Prop :=
  ∃ ms es, v = .object ms .closed ∧ es.Perm m.entries ∧
    List.Forall₂ (fun member e => Named member e.1 ∧ member.2.IsText e.2) ms es

/-- The name of a member is found by the reader. -/
theorem Named.textOf (h : Named m name) : textOf m.1 = .ok name := Means.textOf h

theorem Named.iff (h : Named m other) : Named m name ↔ other = name :=
  ⟨fun h' => h.unique h', fun heq => heq ▸ h⟩

@[simp] theorem named_pieces_iff : Named (pieces other, v) name ↔ other = name :=
  Named.iff (means_pieces other)

/-! ### Maps that are put together -/

namespace TextMap

variable {key value : String} {es : List (String × String)}

/-- A new key makes one entry more. -/
theorem insertEntry_perm (h : ∀ e ∈ es, e.1 ≠ key) :
    (insertEntry key value es).Perm ((key, value) :: es) := by
  induction es with
  | nil => exact .refl _
  | cons e es ih =>
    obtain ⟨hne, hrest⟩ := List.forall_mem_cons.mp h
    unfold insertEntry
    split
    · exact .refl _
    · rw [if_neg hne.symm]
      exact ((ih hrest).cons e).trans (.swap _ _ _)

/-- A map is known by its entries in any order. -/
theorem eq_of_perm {m m' : TextMap} (h : m.entries.Perm m'.entries) : m = m' := by
  obtain ⟨es, hes⟩ := m
  obtain ⟨es', hes'⟩ := m'
  obtain rfl : es = es' := by
    refine h.eq_of_pairwise ?_ hes hes'
    intro a b _ _ hab hba
    exact absurd (String.lt_trans hab hba) (String.lt_irrefl _)
  rfl

theorem nodup_keys (m : TextMap) : (m.entries.map Prod.fst).Nodup :=
  List.pairwise_map.mpr (m.sorted.imp String.ne_of_lt)

end TextMap

namespace Decoder

theorem text_of_isText (h : v.IsText s) : text v = .ok s := by
  obtain ⟨ps, rfl, hmeans⟩ := h
  exact hmeans.textOf

/-- Entries with new keys are all put into the map. -/
theorem entries_of_forall₂ {es : List (String × String)} {m : TextMap}
    (h : List.Forall₂ (fun member e => Named member e.1 ∧ member.2.IsText e.2) ms es)
    (hnodup : ((es ++ m.entries).map Prod.fst).Nodup) :
    ∃ m', entries m ms = .ok m' ∧ m'.entries.Perm (es ++ m.entries) := by
  induction h generalizing m with
  | nil => exact ⟨m, rfl, .refl _⟩
  | @cons member e ms es hmember hrest ih =>
    obtain ⟨hname, htext⟩ := hmember
    obtain ⟨key, value⟩ := e
    obtain ⟨hnew, hnodup⟩ := List.nodup_cons.mp hnodup
    have hkey : ∀ e ∈ m.entries, e.1 ≠ key := by
      rintro e he rfl
      exact hnew (List.mem_map.mpr ⟨e, List.mem_append_right es he, rfl⟩)
    have hinsert : (m.insert key value).entries.Perm ((key, value) :: m.entries) :=
      TextMap.insertEntry_perm hkey
    -- Where the new entry stands does not matter.
    have hmiddle : (es ++ (m.insert key value).entries).Perm ((key, value) :: (es ++ m.entries)) :=
      (hinsert.append_left es).trans List.perm_middle
    obtain ⟨m', hread, hperm⟩ := ih (m := m.insert key value) <| by
      refine ((hmiddle.map Prod.fst).nodup_iff).mpr ?_
      exact List.nodup_cons.mpr ⟨hnew, hnodup⟩
    refine ⟨m', ?_, hperm.trans hmiddle⟩
    obtain ⟨k, v⟩ := member
    rw [entries, hname.textOf, text_of_isText htext]
    exact hread

/-- The decoder of maps finds the map, since a map is known by its entries in any order. -/
theorem textMap_of_isMap {m : TextMap} (h : v.IsMap m) : textMap v = .ok m := by
  obtain ⟨ms, es, rfl, hperm, hmembers⟩ := h
  have hnodup : ((es ++ TextMap.empty.entries).map Prod.fst).Nodup := by
    rw [TextMap.empty, List.append_nil]
    exact ((hperm.map Prod.fst).nodup_iff).mpr m.nodup_keys
  obtain ⟨m', hread, hperm'⟩ := entries_of_forall₂ hmembers hnodup
  rw [TextMap.empty, List.append_nil] at hperm'
  obtain rfl := TextMap.eq_of_perm (hperm'.trans hperm)
  rw [textMap, hread]
  rfl

/-- The decoder of lists finds the list, if that of its items finds the items. -/
theorem list_of_isList {Says : Parsed → α → Prop} {d : Decoder α} {as : List α}
    (hread : ∀ v a, v.Whole → Says v a → d v = .ok a) (hwhole : v.Whole) (h : v.IsList Says as) :
    list d v = .ok as := by
  obtain ⟨vs, rfl, hitems⟩ := h
  have hall : items d vs = .ok as := by
    have hwhole := hwhole.items
    induction hitems with
    | nil => rfl
    | cons hitem hrest ih =>
      obtain ⟨hv, hvs⟩ := List.forall_mem_cons.mp hwhole
      rw [items, hread _ _ hv hitem, ih (.array hvs) hvs]
      rfl
  rw [list, hall]
  rfl

end Decoder

/-! ### Records

A field is told by the one member that has its name, or by none. The lemmas on `Once` and `Lacks`
carry this along the members; `Tell` collects what the reader needs to know about all fields. -/

/-- The value is an object with the members, whose names are texts. -/
structure Parsed.HasMembers (v : Parsed) (ms : List (List Piece × Parsed)) : Prop where
  eq : v = .object ms .closed
  named : ∀ m ∈ ms, ∃ name, Named m name

/-- One member has the name, and what it says is right. -/
structure Once (Holds : Parsed → Prop) (ms : List (List Piece × Parsed)) (name : String) :
    Prop where
  given : ∃ m ∈ ms, Named m name
  holds : ∀ m ∈ ms, Named m name → Holds m.2
  once : ms.Pairwise fun m m' => Named m name → ¬ Named m' name

def Lacks (ms : List (List Piece × Parsed)) (name : String) : Prop := ∀ m ∈ ms, ¬ Named m name

/-- One member has the name, and what it says is right; or none has, which is right as well if the
value is the `default`. -/
def AtMostOnce (Holds : Parsed → Prop) (default : Prop) (ms : List (List Piece × Parsed))
    (name : String) : Prop :=
  Once Holds ms name ∨ default ∧ Lacks ms name

/-- A name that no member has is no other member's name. -/
theorem Lacks.once (h : Lacks ms name) : ms.Pairwise fun m m' => Named m name → ¬ Named m' name :=
  List.pairwise_of_forall_mem_list fun _ _ m' hm' _ => h m' hm'

@[simp] theorem lacks_nil : Lacks [] name := List.forall_mem_nil _

@[simp] theorem lacks_cons : Lacks (m :: ms) name ↔ ¬ Named m name ∧ Lacks ms name :=
  List.forall_mem_cons

section

variable {Holds : Parsed → Prop}

@[simp] theorem not_once_nil : ¬ Once Holds [] name := fun h => by simpa using h.given

/-- A name occurs once if the first member has it and no other, or only another. -/
@[simp] theorem once_cons : Once Holds (m :: ms) name ↔
    Named m name ∧ Holds m.2 ∧ Lacks ms name ∨ ¬ Named m name ∧ Once Holds ms name := by
  constructor
  · rintro ⟨hgiven, hholds, honce⟩
    obtain ⟨hfirst, honce⟩ := List.pairwise_cons.mp honce
    obtain ⟨hm, hms⟩ := List.forall_mem_cons.mp hholds
    by_cases hname : Named m name
    · exact .inl ⟨hname, hm hname, fun m' hm' => hfirst m' hm' hname⟩
    · have hgiven' : ∃ m ∈ ms, Named m name := by simpa [hname] using hgiven
      exact .inr ⟨hname, hgiven', hms, honce⟩
  · rintro (⟨hname, hm, hlacks⟩ | ⟨hname, hgiven, hms, honce⟩)
    · refine ⟨⟨m, List.mem_cons_self, hname⟩, ?_, ?_⟩
      · exact List.forall_mem_cons.mpr ⟨fun _ => hm, fun m' hm' h => absurd h (hlacks m' hm')⟩
      · exact List.pairwise_cons.mpr ⟨fun m' hm' _ => hlacks m' hm', hlacks.once⟩
    · obtain ⟨m', hm', hname'⟩ := hgiven
      refine ⟨⟨m', List.mem_cons_of_mem _ hm', hname'⟩, ?_, ?_⟩
      · exact List.forall_mem_cons.mpr ⟨fun h => absurd h hname, hms⟩
      · exact List.pairwise_cons.mpr ⟨fun _ _ h => absurd h hname, honce⟩

end

/-- A field that is given is seen in the end. -/
theorem Once.mem_seen {Holds : Parsed → Prop} (h : Once Holds ms name)
    (hseen : Lacks ms name ∨ name ∈ seen) : name ∈ seen := by
  obtain ⟨m, hm, hname⟩ := h.given
  exact hseen.resolve_left fun hlacks => hlacks m hm hname

theorem Once.atMostOnce {Holds : Parsed → Prop} (h : Once Holds ms name) :
    AtMostOnce Holds False ms name := .inl h

/-- A field that is not seen has the value that it has by default. -/
theorem AtMostOnce.ite_seen {Holds : Parsed → Prop} {a default : α}
    (h : AtMostOnce Holds (a = default) ms name) (hseen : Lacks ms name ∨ name ∈ seen) :
    (if name ∈ seen then a else default) = a := by
  rcases h with honce | ⟨rfl, -⟩
  · rw [if_pos (honce.mem_seen hseen)]
  · rw [ite_self]

namespace Decoder

variable {δ : Type} {fields : List (Field δ)} {known : List String → δ}

/-- A field is read by its decoder. -/
theorem Field.read_of {d : Decoder β} {b : β} (h : d v = .ok b) (name : String) (put : β → δ → δ)
    (draft : δ) : (Field.of name d put).read v draft = .ok (put b draft) := by
  show (d v).map (put · draft) = _
  rw [h]
  rfl

/-- The members tell the field at most once, and the value that tells it is read
as what is known of it. -/
def Field.Told (f : Field δ) (known : List String → δ) (ms : List (List Piece × Parsed)) : Prop :=
  ∃ Holds default, AtMostOnce Holds default ms f.name ∧
    ∀ v, v.Whole → Holds v → ∀ seen, f.read v (known seen) = .ok (known (f.name :: seen))

namespace Field.Told

variable {f : Field δ}

/-- A field with a decoder that finds what is said is told. -/
theorem of_atMostOnce {d : Decoder β} {b : β} {put : β → δ → δ} {Holds : Parsed → Prop}
    {default : Prop}
    (h : AtMostOnce Holds default ms name) (hread : ∀ v, v.Whole → Holds v → d v = .ok b)
    (hput : ∀ seen, put b (known seen) = known (name :: seen)) :
    (Field.of name d put).Told known ms := by
  refine ⟨Holds, default, h, fun v hv hholds seen => ?_⟩
  rw [Field.read_of (hread v hv hholds), hput]
  rfl

theorem read (h : f.Told known ms) (hm : m ∈ ms) (hname : Named m f.name) (hwhole : m.2.Whole)
    (seen : List String) : f.read m.2 (known seen) = .ok (known (f.name :: seen)) := by
  obtain ⟨Holds, default, honce | ⟨-, hlacks⟩, hread⟩ := h
  · exact hread m.2 hwhole (honce.holds m hm hname) seen
  · exact absurd hname (hlacks m hm)

theorem once (h : f.Told known ms) :
    ms.Pairwise fun m m' => Named m f.name → ¬ Named m' f.name := by
  obtain ⟨Holds, default, honce | ⟨-, hlacks⟩, hread⟩ := h
  · exact honce.once
  · exact hlacks.once

end Field.Told

/-- The members have names, can be skipped, and tell each field at most once. -/
structure Tell (fields : List (Field δ)) (known : List String → δ)
    (ms : List (List Piece × Parsed)) :
    Prop where
  named : ∀ m ∈ ms, ∃ name, Named m name
  skipError? : ∀ m ∈ ms, m.2.skipError? = none
  read : ∀ f ∈ fields, ∀ m ∈ ms, Named m f.name → ∀ seen,
    f.read m.2 (known seen) = .ok (known (f.name :: seen))
  once : ∀ f ∈ fields, ms.Pairwise fun m m' => Named m f.name → ¬ Named m' f.name

namespace Tell

/-- Members that tell every field, in a value without damage. -/
theorem of_told (hv : (Parsed.object ms .closed).Whole) (hnamed : ∀ m ∈ ms, ∃ name, Named m name)
    (htold : ∀ f ∈ fields, f.Told known ms) : Tell fields known ms where
  named := hnamed
  skipError? m hm := (hv.members m hm).skipError?
  read f hf m hm hname := (htold f hf).read hm hname (hv.members m hm)
  once f hf := (htold f hf).once

theorem tail (h : Tell fields known (m :: ms)) : Tell fields known ms where
  named m hm := h.named m (List.mem_cons_of_mem _ hm)
  skipError? m hm := h.skipError? m (List.mem_cons_of_mem _ hm)
  read f hf m hm := h.read f hf m (List.mem_cons_of_mem _ hm)
  once f hf := (h.once f hf).of_cons

/-- In whatever order the members come, they leave what is known of the fields that were seen. -/
theorem members_eq (h : Tell fields known ms)
    (hnew : ∀ f ∈ fields, f.name ∈ seen → Lacks ms f.name) :
    ∃ seen', members fields seen ms (known seen) = .ok (known seen') ∧
      ∀ f ∈ fields, f.name ∈ seen' ↔ f.name ∈ seen ∨ ∃ m ∈ ms, Named m f.name := by
  induction ms generalizing seen with
  | nil => exact ⟨seen, rfl, fun f _ => by simp⟩
  | cons m ms ih =>
    obtain ⟨name, hname⟩ := h.named m List.mem_cons_self
    have hnew' : ∀ f ∈ fields, f.name ∈ seen → Lacks ms f.name :=
      fun f hf hseen => (lacks_cons.mp (hnew f hf hseen)).2
    cases hfind : fields.find? (·.name = name) with
    -- The member is unknown: it is skipped, and nothing is seen.
    | none =>
      obtain ⟨seen', hmembers, hseen'⟩ := ih h.tail hnew'
      rw [← members_cons_of_none hname.textOf hfind (h.skipError? m List.mem_cons_self)] at hmembers
      refine ⟨seen', hmembers, fun f hf => ?_⟩
      have hne : ¬ Named m f.name := by
        rw [hname.iff]
        exact fun heq => List.find?_eq_none.mp hfind f hf (by simp [heq])
      rw [hseen' f hf]
      simp [hne]
    -- The member is that of a field, which was not seen before.
    | some f =>
      have hf : f ∈ fields := List.mem_of_find?_eq_some hfind
      obtain rfl : f.name = name := by simpa using List.find?_some hfind
      have hunseen : f.name ∉ seen := fun hmem => (lacks_cons.mp (hnew f hf hmem)).1 hname
      -- From here on the field counts as seen, and no other member has its name.
      have hnew'' : ∀ g ∈ fields, g.name ∈ f.name :: seen → Lacks ms g.name := by
        intro g hg hmem
        rcases List.mem_cons.mp hmem with heq | hmem
        · rw [heq]
          exact fun m' hm' => (List.pairwise_cons.mp (h.once f hf)).1 m' hm' hname
        · exact hnew' g hg hmem
      obtain ⟨seen', hmembers, hseen'⟩ := ih h.tail hnew''
      rw [← members_cons_of_some hname.textOf hfind hunseen
        (h.read f hf m List.mem_cons_self hname seen)] at hmembers
      refine ⟨seen', hmembers, fun g hg => ?_⟩
      have hiff : g.name = f.name ↔ Named m g.name := eq_comm.trans hname.iff.symm
      rw [hseen' g hg]
      simp only [List.mem_cons, hiff, exists_eq_or_imp]
      tauto

end Tell

/-- A record is read as what its members say. -/
theorem record_of_members (known : List String → δ) {complete : δ → Option α} {a : α} (hv : v.Whole)
    (h : v.HasMembers ms) (htold : ∀ f ∈ fields, f.Told known ms)
    (hcomplete : ∀ seen, (∀ f ∈ fields, Lacks ms f.name ∨ f.name ∈ seen) →
      complete (known seen) = some a) :
    record fields (known []) complete v = .ok a := by
  obtain ⟨rfl, hnamed⟩ := h
  have hnew : ∀ f ∈ fields, f.name ∈ [] → Lacks ms f.name := fun f _ hmem =>
    absurd hmem List.not_mem_nil
  obtain ⟨seen, hmembers, hseen⟩ := (Tell.of_told hv hnamed htold).members_eq hnew
  -- In the end every field has been seen that some member tells.
  have hall : ∀ f ∈ fields, Lacks ms f.name ∨ f.name ∈ seen := by
    intro f hf
    by_cases hgiven : ∃ m ∈ ms, Named m f.name
    · exact .inr ((hseen f hf).mpr (.inr hgiven))
    · exact .inl fun m hm hname => hgiven ⟨m, hm, hname⟩
  rw [record, hmembers]
  simp only [hcomplete seen hall]
  rfl

end Decoder
end NodeAdmission.Json
