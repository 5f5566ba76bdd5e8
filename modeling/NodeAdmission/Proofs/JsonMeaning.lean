import NodeAdmission.Json.Token
import NodeAdmission.Proofs.Utf8

/-!
# What a JSON string means

A text can be spelled in many ways inside a string: each of its characters by itself, by an escape
of one letter, by its number, or by the two surrogates that name it. `Means` says which characters
the pieces of a string stand for, without regard to how they are read. The reader finds just this
text (`Means.textOf`), so a string means one text only (`Means.unique`).

The reader goes over the pieces twice, once to see that surrogates come in pairs (`Means.pairing`)
and once for the content (`Means.contentOnto`). No character is a surrogate (`not_surrogate`), so a
unit that stands for a character by itself is never taken for half of a pair.
-/

namespace NodeAdmission.Json

variable {c : Char} {cs : List Char} {ps : List Piece} {s t : String}

/-- The pieces of a string stand for the characters. -/
inductive Means : List Piece → List Char → Prop
  | nil : Means [] []
  | bytes {c : Char} {ps : List Piece} {cs : List Char} : Means ps cs →
      Means ((Utf8.encodeChar c).map .byte ++ ps) (c :: cs)
  | unit {c : Char} {ps : List Piece} {cs : List Char} : c.toNat < 0x10000 → Means ps cs →
      Means (.unit c.toNat :: ps) (c :: cs)
  | pair {c : Char} {high low : Nat} {ps : List Piece} {cs : List Char} : high < 1024 → low < 1024 →
      c.toNat = 0x10000 + high * 1024 + low → Means ps cs →
      Means (.unit (0xD800 + high) :: .unit (0xDC00 + low) :: ps) (c :: cs)

/-! ### Reading -/

theorem pairing_bytes (bytes : Bytes) (ps : List Piece) :
    pairing (bytes.map .byte ++ ps) = pairing ps := by
  induction bytes with
  | nil => rfl
  | cons b bytes ih => exact ih

theorem contentOnto_bytes (done bytes : Bytes) (ps : List Piece) :
    contentOnto done (bytes.map .byte ++ ps) = contentOnto (bytes.reverse ++ done) ps := by
  induction bytes generalizing done with
  | nil => rfl
  | cons b bytes ih =>
    rw [List.map_cons, List.cons_append, contentOnto, ih, List.reverse_cons, List.append_assoc]
    rfl

/-- No character is a surrogate. -/
theorem not_surrogate (c : Char) : isLeading c.toNat = false ∧ isTrailing c.toNat = false := by
  have hvalid : c.toNat < 0xD800 ∨ 0xDFFF < c.toNat ∧ c.toNat < 0x110000 := c.valid
  simp only [isLeading, isTrailing, Bool.and_eq_false_iff, decide_eq_false_iff_not]
  omega

/-- The two halves are told apart by their ranges. -/
theorem surrogates {high low : Nat} (hhigh : high < 1024) (hlow : low < 1024) :
    isLeading (0xD800 + high) = true ∧ isTrailing (0xD800 + high) = false ∧
      isTrailing (0xDC00 + low) = true := by
  simp only [isLeading, isTrailing, Bool.and_eq_true, Bool.and_eq_false_iff, decide_eq_true_eq,
    decide_eq_false_iff_not]
  omega

namespace Means

/-- In a string that means something all surrogates come in pairs. -/
theorem pairing (h : Means ps cs) : pairing ps = .paired := by
  induction h with
  | nil => rfl
  | bytes h ih => rw [pairing_bytes, ih]
  | @unit c ps cs hfits h ih =>
    obtain ⟨hleading, htrailing⟩ := not_surrogate c
    rw [Json.pairing.eq_def]
    simp only [htrailing, hleading, Bool.false_eq_true, if_false, ih]
  | pair hhigh hlow hc h ih =>
    obtain ⟨hleading, htrailing, hsecond⟩ := surrogates hhigh hlow
    rw [Json.pairing.eq_def]
    simp only [htrailing, hleading, hsecond, Bool.false_eq_true, if_false, if_true, ih]

/-- The content of a string is the bytes of what it means. -/
theorem contentOnto (h : Means ps cs) (done : Bytes) :
    contentOnto done ps = (Utf8.encodeChars cs).reverse ++ done := by
  induction h generalizing done with
  | nil => rfl
  | bytes h ih =>
    rw [contentOnto_bytes, ih, Utf8.encodeChars_cons, List.reverse_append, List.append_assoc]
  | @unit c ps cs hfits h ih =>
    rw [Json.contentOnto.eq_def]
    simp only [(not_surrogate c).1, Bool.false_eq_true, if_false, Char.ofNat_toNat]
    rw [ih, Utf8.encodeChars_cons, List.reverse_append, List.append_assoc]
  | @pair c high low ps cs hhigh hlow hc h ih =>
    have hpair : pairChar (0xD800 + high) (0xDC00 + low) = c := by
      rw [pairChar, Nat.add_sub_cancel_left, Nat.add_sub_cancel_left, ← hc, Char.ofNat_toNat]
    rw [Json.contentOnto.eq_def]
    simp only [(surrogates hhigh hlow).1, if_true, hpair]
    rw [ih, Utf8.encodeChars_cons, List.reverse_append, List.append_assoc]

/-- The reader finds the text that is meant. -/
theorem textOf (h : Means ps s.toList) : textOf ps = .ok s := by
  have hcontent : (Json.contentOnto [] ps).reverse = Utf8.encode s := by
    rw [h.contentOnto, List.append_nil, List.reverse_reverse]
    rfl
  rw [Json.textOf, h.pairing]
  simp only [hcontent, Utf8.decode_encode]

/-- A string means one text only. -/
theorem unique (hs : Means ps s.toList) (ht : Means ps t.toList) : s = t :=
  Except.ok.inj (hs.textOf.symm.trans ht.textOf)

end Means

end NodeAdmission.Json
