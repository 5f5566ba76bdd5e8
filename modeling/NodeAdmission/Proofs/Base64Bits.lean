import NodeAdmission.Proofs.Base64

/-!
# Base64 in bits

What a base64 spelling is, without the arithmetic of the writer (`Spells`). The bits of the bytes,
eight to a byte and the highest first, are followed by as few zeros as make their number a multiple
of six; every six bits are written as a letter of the alphabet, and as few signs `=` follow as make
the number of characters a multiple of four. This is what `encode` writes, and nothing else is.

* `eq_of_flatMap_eq` — values that have the same bits in a row are the same, since
  all of them have six bits.
* `encode_eq` — the writer in two steps: the values of the letters (`sextets`), and the padding.
* `flatMap_sextets` — these values are the bits of the bytes in groups of six.
* `spells_iff` — so the text that `encode` writes is a spelling, and any spelling has its values.

The counts come out of the lengths. Less than six zeros and a multiple of four characters leave one
choice for either of them, which `omega` finds (`length_sextets`).
-/

namespace NodeAdmission.Base64

/-- The lowest `width` bits of a number, the highest of them first. -/
def bits : (width : Nat) → Nat → List Bool
  | 0, _ => []
  | width + 1, n => n.testBit width :: bits width n

theorem length_alphabet : alphabet.length = 64 := by decide

def letter (v : Fin 64) : Char := alphabet.get (v.cast length_alphabet.symm)

/-- The text is the base64 spelling of the bytes. Its letters, six bits each, hold the
bits of the bytes and less than six zeros behind them; less than four signs `=` make its
length a multiple of four. -/
def Spells (text : String) (bytes : Bytes) : Prop :=
  ∃ (values : List (Fin 64)) (zeros pads : Nat),
    text.toList = values.map letter ++ List.replicate pads '=' ∧
      values.flatMap (bits 6 ·.val) = bytes.flatMap (bits 8 ·.toNat) ++ List.replicate zeros false ∧
      zeros < 6 ∧ pads < 4 ∧ text.length % 4 = 0

variable {text : String} {bytes : Bytes} {values values' : List (Fin 64)} {w v n m pads : Nat}

/-! ### Bits -/

@[simp] theorem length_bits (w n : Nat) : (bits w n).length = w := by
  induction w with
  | zero => rfl
  | succ w ih => rw [bits, List.length_cons, ih]

/-- Numbers have the same lowest bits just if these agree one by one. -/
theorem bits_eq_iff : bits w n = bits w m ↔ ∀ i < w, n.testBit i = m.testBit i := by
  induction w with
  | zero => simp [bits]
  | succ w ih =>
    rw [bits, bits, List.cons.injEq, ih]
    constructor
    · rintro ⟨hw, h⟩ i hi
      -- The highest bit is the first of the list.
      rcases Nat.lt_succ_iff_lt_or_eq.mp hi with hi | rfl
      · exact h i hi
      · exact hw
    · exact fun h => ⟨h w (Nat.lt_succ_self w), fun i hi => h i (Nat.lt_succ_of_lt hi)⟩

/-- Numbers that fit are told apart by their bits. -/
theorem eq_of_bits_eq (hn : n < Nat.pow 2 w) (hm : m < Nat.pow 2 w) (h : bits w n = bits w m) :
    n = m := by
  refine Nat.eq_of_testBit_eq fun i => ?_
  by_cases hi : i < w
  · exact bits_eq_iff.mp h i hi
  · have hle : Nat.pow 2 w ≤ Nat.pow 2 i := Nat.pow_le_pow_right (by decide) (by omega)
    rw [Nat.testBit_lt_two_pow (Nat.lt_of_lt_of_le hn hle),
      Nat.testBit_lt_two_pow (Nat.lt_of_lt_of_le hm hle)]

theorem bits_mod (w n : Nat) : bits w (n % Nat.pow 2 w) = bits w n :=
  bits_eq_iff.mpr fun i hi => by simp [Nat.testBit_mod_two_pow, hi]

/-- The bits of a number are those of its upper part and those of its lower part. -/
theorem bits_add (w v n : Nat) :
    bits (w + v) n = bits w (n / Nat.pow 2 v) ++ bits v (n % Nat.pow 2 v) := by
  rw [bits_mod]
  induction w with
  | zero => rw [Nat.zero_add, bits, List.nil_append]
  | succ w ih =>
    have hbit : (n / Nat.pow 2 v).testBit w = n.testBit (w + v) := Nat.testBit_div_two_pow n w
    rw [Nat.succ_add, bits, bits, hbit, ih, List.cons_append]

/-- A number that is put together has the bits of its parts. -/
theorem bits_mul_add (w n : Nat) (hm : m < Nat.pow 2 v) :
    bits (w + v) (n * Nat.pow 2 v + m) = bits w n ++ bits v m := by
  have hdiv : (n * Nat.pow 2 v + m) / Nat.pow 2 v = n := by
    rw [Nat.mul_comm, Nat.mul_add_div (by omega), Nat.div_eq_of_lt hm, Nat.add_zero]
  have hmod : (n * Nat.pow 2 v + m) % Nat.pow 2 v = m := by
    rw [Nat.mul_comm, Nat.mul_add_mod, Nat.mod_eq_of_lt hm]
  rw [bits_add, hdiv, hmod]

theorem length_flatMap_bits {α : Type} (w : Nat) (f : α → Nat) (as : List α) :
    (as.flatMap (bits w <| f ·)).length = w * as.length := by
  induction as with
  | nil => rfl
  | cons a as ih =>
    rw [List.flatMap_cons, List.length_append, length_bits, ih, List.length_cons, Nat.mul_succ,
      Nat.add_comm]

/-- Values are told apart by all their bits in a row. -/
theorem eq_of_flatMap_eq (h : values.flatMap (bits 6 ·.val) = values'.flatMap (bits 6 ·.val)) :
    values = values' := by
  have hlength : values.length = values'.length := by
    have hbits := congrArg List.length h
    rw [length_flatMap_bits, length_flatMap_bits] at hbits
    omega
  induction values generalizing values' with
  | nil => exact (List.length_eq_zero_iff.mp hlength.symm).symm
  | cons x values ih =>
    cases values' with
    | nil => cases hlength
    | cons y values' =>
      rw [List.flatMap_cons, List.flatMap_cons] at h
      -- The first six bits are those of the first value.
      obtain ⟨hbits, hrest⟩ := List.append_inj h (by rw [length_bits, length_bits])
      rw [Fin.ext (eq_of_bits_eq x.isLt y.isLt hbits), ih hrest (Nat.succ.inj hlength)]

/-! ### The values that are written -/

/-- The values of the letters of a spelling. -/
def sextets : Bytes → List (Fin 64)
  | [] => []
  | [a] => [.ofNat 64 (a.toNat / 4), .ofNat 64 (a.toNat % 4 * 16)]
  | [a, b] =>
    [.ofNat 64 (a.toNat / 4), .ofNat 64 (a.toNat % 4 * 16 + b.toNat / 16),
      .ofNat 64 (b.toNat % 16 * 4)]
  | a :: b :: c :: rest =>
    .ofNat 64 (a.toNat / 4) :: .ofNat 64 (a.toNat % 4 * 16 + b.toNat / 16) ::
      .ofNat 64 (b.toNat % 16 * 4 + c.toNat / 64) :: .ofNat 64 (c.toNat % 64) :: sextets rest

def padding (bytes : Bytes) : Nat := (3 - bytes.length % 3) % 3

theorem padding_cons (a b c : UInt8) (rest : Bytes) :
    padding (a :: b :: c :: rest) = padding rest := by
  unfold padding
  rw [List.length_cons, List.length_cons, List.length_cons]
  omega

/-- The writer writes the symbols of the values, and then the padding. -/
theorem encode_eq (bytes : Bytes) :
    encode bytes = (sextets bytes).map (symbol ·.val) ++ List.replicate (padding bytes) pad := by
  fun_induction sextets bytes with
  | case1 => rfl
  | case2 a =>
    have ha := a.toNat_lt
    simp (disch := omega) only [List.map_cons, List.map_nil, Fin.val_ofNat, Nat.mod_eq_of_lt]
    rfl
  | case3 a b =>
    have ha := a.toNat_lt
    have hb := b.toNat_lt
    simp (disch := omega) only [List.map_cons, List.map_nil, Fin.val_ofNat, Nat.mod_eq_of_lt]
    rfl
  -- Three bytes make four values, none of which is too large to be a symbol.
  | case4 a b c rest ih =>
    have ha := a.toNat_lt
    have hb := b.toNat_lt
    have hc := c.toNat_lt
    simp (disch := omega) only [List.map_cons, Fin.val_ofNat, Nat.mod_eq_of_lt]
    rw [padding_cons, encode, ih]
    rfl

/-- The values of the letters hold the bits of the bytes. -/
theorem flatMap_sextets (bytes : Bytes) :
    (sextets bytes).flatMap (bits 6 ·.val) =
      bytes.flatMap (bits 8 ·.toNat) ++ List.replicate (2 * padding bytes) false := by
  have hval : ∀ n, bits 6 (Fin.ofNat 64 n).val = bits 6 n := bits_mod 6
  -- The first, second and third of three bytes, cut where one value ends and the next begins.
  have hfirst : ∀ n, bits 8 n = bits 6 (n / 4) ++ bits 2 (n % 4) := bits_add 6 2
  have hsecond : ∀ n, bits 8 n = bits 4 (n / 16) ++ bits 4 (n % 16) := bits_add 4 4
  have hthird : ∀ n, bits 8 n = bits 2 (n / 64) ++ bits 6 (n % 64) := bits_add 2 6
  -- A value that holds the end of one byte and the beginning of the next.
  have hupper : ∀ n m, m < 16 → bits 6 (n * 16 + m) = bits 2 n ++ bits 4 m :=
    fun n m hm => bits_mul_add (v := 4) 2 n hm
  have hlower : ∀ n m, m < 4 → bits 6 (n * 4 + m) = bits 4 n ++ bits 2 m :=
    fun n m hm => bits_mul_add (v := 2) 4 n hm
  fun_induction sextets bytes with
  | case1 => rfl
  -- One byte: the second value ends with four zeros.
  | case2 a =>
    have hlast : bits 6 (a.toNat % 4 * 16) = bits 2 (a.toNat % 4) ++ bits 4 0 := by
      rw [← hupper _ 0 (by decide), Nat.add_zero]
    simp only [List.flatMap_cons, List.flatMap_nil, hval, hfirst a.toNat, hlast, List.append_assoc]
    rfl
  -- Two bytes: the third value ends with two zeros.
  | case3 a b =>
    have hb := b.toNat_lt
    have hlast : bits 6 (b.toNat % 16 * 4) = bits 4 (b.toNat % 16) ++ bits 2 0 := by
      rw [← hlower _ 0 (by decide), Nat.add_zero]
    simp only [List.flatMap_cons, List.flatMap_nil, hval, hfirst a.toNat, hsecond b.toNat,
      hupper (a.toNat % 4) (b.toNat / 16) (by omega), hlast, List.append_assoc]
    rfl
  | case4 a b c rest ih =>
    have hb := b.toNat_lt
    have hc := c.toNat_lt
    simp only [List.flatMap_cons, hval, hfirst a.toNat, hsecond b.toNat, hthird c.toNat,
      hupper (a.toNat % 4) (b.toNat / 16) (by omega),
      hlower (b.toNat % 16) (c.toNat / 64) (by omega), ih, padding_cons, List.append_assoc]

/-- The letters have room for the bytes and for two bits more with every sign `=`. -/
theorem length_sextets (bytes : Bytes) :
    8 * bytes.length + 2 * padding bytes = 6 * (sextets bytes).length := by
  have hlength := congrArg List.length (flatMap_sextets bytes)
  rw [List.length_append, length_flatMap_bits, length_flatMap_bits, List.length_replicate]
    at hlength
  exact hlength.symm

/-! ### Spellings -/

/-- Letters and signs `=` are ASCII, so their bytes are the symbols. -/
theorem encodeChars_letters (values : List (Fin 64)) (pads : Nat) :
    Utf8.encodeChars (values.map letter ++ List.replicate pads '=') =
      values.map (symbol ·.val) ++ List.replicate pads pad := by
  have hletter : ∀ v, Utf8.encodeChar (letter v) = [symbol v.val] := by decide +kernel
  have hpads : Utf8.encodeChars (List.replicate pads '=') = List.replicate pads pad := by
    induction pads with
    | zero => rfl
    | succ pads ih =>
      rw [List.replicate_succ, Utf8.encodeChars_cons, ih]
      rfl
  induction values with
  | nil => exact hpads
  | cons v values ih =>
    rw [List.map_cons, List.cons_append, Utf8.encodeChars_cons, ih, hletter]
    rfl

def spelling (bytes : Bytes) : String :=
  .ofList ((sextets bytes).map letter ++ List.replicate (padding bytes) '=')

theorem encode_spelling (bytes : Bytes) : Utf8.encode (spelling bytes) = encode bytes := by
  rw [Utf8.encode, spelling, String.toList_ofList, encodeChars_letters, encode_eq]

/-- The writer follows the rules. -/
theorem spells_spelling (bytes : Bytes) : Spells (spelling bytes) bytes := by
  have hlength := length_sextets bytes
  have hpadding : padding bytes = (3 - bytes.length % 3) % 3 := rfl
  have htext : (spelling bytes).toList =
      (sextets bytes).map letter ++ List.replicate (padding bytes) '=' := String.toList_ofList
  have hfull : (spelling bytes).length % 4 = 0 := by
    rw [← String.length_toList, htext, List.length_append, List.length_map, List.length_replicate]
    omega
  exact ⟨sextets bytes, 2 * padding bytes, padding bytes, htext, flatMap_sextets bytes, by omega,
    by omega, hfull⟩

/-- The bits determine the spelling, and it is the one that `encode` writes. -/
theorem spells_iff : Spells text bytes ↔ Utf8.encode text = encode bytes := by
  constructor
  · rintro ⟨values, zeros, pads, htext, hvalues, hzeros, hpads, hfull⟩
    have hlength := length_sextets bytes
    have hpadding : padding bytes = (3 - bytes.length % 3) % 3 := rfl
    have hsame := congrArg List.length hvalues
    rw [List.length_append, length_flatMap_bits, length_flatMap_bits, List.length_replicate]
      at hsame
    -- The zeros are as many as the writer appends, for otherwise they would be six more or less.
    obtain rfl : zeros = 2 * padding bytes := by omega
    obtain rfl : values = sextets bytes :=
      eq_of_flatMap_eq (hvalues.trans (flatMap_sextets bytes).symm)
    obtain rfl : pads = padding bytes := by
      rw [← String.length_toList, htext, List.length_append, List.length_map,
        List.length_replicate] at hfull
      omega
    rw [Utf8.encode, htext, encodeChars_letters, encode_eq]
  · intro h
    obtain rfl := Utf8.encode_injective (h.trans (encode_spelling bytes).symm)
    exact spells_spelling bytes

end NodeAdmission.Base64
