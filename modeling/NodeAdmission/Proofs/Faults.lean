import NodeAdmission.Crypto.Wire
import NodeAdmission.Proofs.JsonWriting

/-!
# What counts as a fault

The crypto service reports a failure by an object with a code. Whatever other fields the
object has, and however it is laid out, its code is read if it fits 32 bits, and if it does
not fit, the text is no fault.

* `Fault.Spelled` — the text is an object with a code, said by way of the spellings of JSON and
  not by way of the reader.
* `Decoder.members_append`, `Decoder.members_one` — fields of other names are
  skipped wherever they stand.
* `int?_numberOf` — the code as it is read: within 64 bits it is a number, beyond that it is none.
* `Fault.Spelled.decode_eq_ok`, `Fault.Spelled.decode_eq_error` — the two cases.
-/

namespace NodeAdmission

/-! ### Whole numbers -/

namespace Json

variable {low high c : Int}

/-- What is read of a whole number is the number, as long as it fits 64 bits. -/
theorem int?_numberOf (c : Int) :
    (numberOf c).int? =
      if -9223372036854775808 ≤ c ∧ c < 18446744073709551616 then some c else none := by
  have hsmall : Nat.pow 2 63 = 9223372036854775808 := by decide
  have hlarge : Nat.pow 2 64 = 18446744073709551616 := by decide
  simp only [Number.int?, numberOf, digitsValue_digitsOf, hsmall, hlarge, decide_eq_true_eq]
  -- The bounds differ by the sign, and so do the ways to read the number.
  by_cases hneg : c < 0
  · rw [if_pos hneg]
    by_cases hfits : -9223372036854775808 ≤ c
    · rw [if_pos (by omega), if_pos (by omega)]
      exact congrArg some (by omega)
    · rw [if_neg (by omega), if_neg (by omega)]
  · rw [if_neg hneg]
    by_cases hfits : c < 18446744073709551616
    · rw [if_pos (by omega), if_pos (by omega)]
      exact congrArg some (by omega)
    · rw [if_neg (by omega), if_neg (by omega)]

namespace Decoder

theorem int_numberOf (hlow : -9223372036854775808 ≤ low) (hhigh : high < 18446744073709551616)
    (hc : low ≤ c ∧ c ≤ high) : int low high (.number (numberOf c)) = .ok c := by
  have hfits : -9223372036854775808 ≤ c ∧ c < 18446744073709551616 := by omega
  rw [int, int?_numberOf, if_pos hfits]
  exact if_pos hc

/-- One that is out of bounds is not, be it too large for 64 bits or only for the field. -/
theorem int_numberOf_of_not (hc : ¬ (low ≤ c ∧ c ≤ high)) :
    ∃ e, int low high (.number (numberOf c)) = .error e := by
  rw [int, int?_numberOf]
  split
  · next i hi =>
    split at hi
    · obtain rfl := Option.some.inj hi
      exact ⟨.mismatch, if_neg hc⟩
    · cases hi
  · exact ⟨_, rfl⟩

/-! ### Unknown fields -/

variable {δ : Type} {fields : List (Field δ)} {seen : List String} {draft : δ}
  {before after ms : List (List Piece × Parsed)} {key : List Piece} {name : String} {v : Parsed}

/-- The member has a name that none of the fields has, and a value that can be skipped. -/
def IsUnknown (fields : List (Field δ)) (m : List Piece × Parsed) : Prop :=
  (∃ name, textOf m.1 = .ok name ∧ fields.find? (·.name = name) = none) ∧ m.2.skipError? = none

/-- Unknown members are skipped. -/
theorem members_append (h : ∀ m ∈ before, IsUnknown fields m) :
    members fields seen (before ++ ms) draft = members fields seen ms draft := by
  induction before with
  | nil => rfl
  | cons m before ih =>
    obtain ⟨⟨⟨name, hname, hnone⟩, hskip⟩, hrest⟩ := List.forall_mem_cons.mp h
    rw [List.cons_append, members_cons_of_none hname hnone hskip]
    exact ih hrest

/-- Members that are all unknown are all skipped. -/
theorem members_unknown (h : ∀ m ∈ ms, IsUnknown fields m) :
    members fields seen ms draft = .ok draft := by
  have happend : members fields seen (ms ++ []) draft = members fields seen [] draft :=
    members_append h
  rw [List.append_nil] at happend
  exact happend

/-- Of members of which one is known, only this one is read. -/
theorem members_one {f : Field δ} (hbefore : ∀ m ∈ before, IsUnknown fields m)
    (hkey : textOf key = .ok name) (hfield : fields.find? (·.name = name) = some f)
    (hafter : ∀ m ∈ after, IsUnknown fields m) :
    members fields [] (before ++ (key, v) :: after) draft = f.read v draft := by
  have hnew : ([] : List String).contains name = false := rfl
  rw [members_append hbefore, members, hkey]
  simp only [hfield, hnew]
  cases f.read v draft with
  | error e => rfl
  | ok draft' => exact members_unknown hafter

end Decoder
end Json

/-! ### Faults -/

namespace Crypto.Fault

open Json

variable {text : String} {c : Int}

/-- The text is an object with the code `c` and any other fields. -/
def Spelled (text : String) (c : Int) : Prop :=
  ∃ before key after,
    Spells text.toList (.object (before ++ (key, .number (numberOf c)) :: after) .closed) ∧
      textOf key = .ok "Code" ∧ ∀ m ∈ before ++ after, ∃ name, textOf m.1 = .ok name ∧ name ≠ "Code"

/-- With one code among fields of other names, the code alone decides. -/
theorem decoder_of_members {before after : List (List Piece × Parsed)} {key : List Piece}
    (hskip : ∀ m ∈ before ++ after, m.2.skipError? = none) (hkey : textOf key = .ok "Code")
    (hothers : ∀ m ∈ before ++ after, ∃ name, textOf m.1 = .ok name ∧ name ≠ "Code") :
    decoder (.object (before ++ (key, .number (numberOf c)) :: after) .closed) =
      (Decoder.int (-2147483648) 2147483647 (.number (numberOf c))).map fun i =>
        ⟨Int32.ofInt i⟩ := by
  let code : Decoder.Field (Option Int) :=
    .of "Code" (.int (-2147483648) 2147483647) fun v _ => some v
  -- The decoder knows one field, so every other name is unknown to it.
  have hunknown : ∀ m ∈ before ++ after, Decoder.IsUnknown [code] m := by
    intro m hm
    obtain ⟨name, hname, hne⟩ := hothers m hm
    have hnone : [code].find? (·.name = name) = none := by
      simp [code, Decoder.Field.of, hne.symm]
    exact ⟨⟨name, hname, hnone⟩, hskip m hm⟩
  have hcode : [code].find? (·.name = "Code") = some code := rfl
  have hmembers :
      Decoder.members [code] [] (before ++ (key, .number (numberOf c)) :: after) none =
        code.read (.number (numberOf c)) none :=
    Decoder.members_one (fun m hm => hunknown m (List.mem_append_left _ hm)) hkey hcode
      (fun m hm => hunknown m (List.mem_append_right _ hm))
  have hread : code.read (.number (numberOf c)) none =
      (Decoder.int (-2147483648) 2147483647 (.number (numberOf c))).map some := rfl
  rw [decoder, Decoder.record, hmembers, hread]
  -- The field may still be refused, for a code that does not fit.
  cases Decoder.int (-2147483648) 2147483647 (.number (numberOf c)) with
  | error e => rfl
  | ok i => rfl

/-- An object that is written with a code and any other fields. -/
theorem spelled_obj (before after : List (String × Json)) (h : ∀ m ∈ before ++ after, m.1 ≠ "Code")
    (c : Int) : Spelled (Json.obj (before ++ ("Code", .int c) :: after)).compact c := by
  refine ⟨parsedMembers before, pieces "Code", parsedMembers after, ?_, textOf_pieces _, ?_⟩
  · have hspells := spells_compactChars (.obj (before ++ ("Code", .int c) :: after))
    rw [parsed, parsedMembers_append] at hspells
    rw [compact, String.toList_ofList]
    exact hspells
  · intro m hm
    rw [← parsedMembers_append, parsedMembers_eq_map] at hm
    obtain ⟨m', hm', rfl⟩ := List.mem_map.mp hm
    exact ⟨m'.1, textOf_pieces _, h m' hm'⟩

/-- The code of a fault is read from its text. -/
theorem Spelled.decode (h : Spelled text c) :
    decoder.decode (Utf8.encode text) =
      (Decoder.int (-2147483648) 2147483647 (.number (numberOf c))).map fun i =>
        ⟨Int32.ofInt i⟩ := by
  obtain ⟨before, key, after, hspells, hkey, hothers⟩ := h
  have hskip : ∀ m ∈ before ++ after, m.2.skipError? = none := by
    intro m hm
    refine (hspells.whole.members m ?_).skipError?
    rcases List.mem_append.mp hm with hm | hm
    · exact List.mem_append_left _ hm
    · exact List.mem_append_right _ (List.mem_cons_of_mem _ hm)
  rw [Decoder.decode, Utf8.encode, read_of_spells hspells, decoder_of_members hskip hkey hothers]
  cases Decoder.int (-2147483648) 2147483647 (.number (numberOf c)) with
  | error e => rfl
  | ok i => rfl

theorem Spelled.decode_eq_ok (h : Spelled text c) (hc : -2147483648 ≤ c ∧ c ≤ 2147483647) :
    decoder.decode (Utf8.encode text) = .ok ⟨Int32.ofInt c⟩ := by
  rw [h.decode, Decoder.int_numberOf (by decide) (by decide) hc]
  rfl

/-- A text with a code that does not fit 32 bits is no fault. -/
theorem Spelled.decode_eq_error (h : Spelled text c) (hc : ¬ (-2147483648 ≤ c ∧ c ≤ 2147483647)) :
    ∃ e, decoder.decode (Utf8.encode text) = .error e := by
  obtain ⟨e, he⟩ := Decoder.int_numberOf_of_not hc
  exact ⟨e, by rw [h.decode, he]; rfl⟩

end Crypto.Fault
end NodeAdmission
