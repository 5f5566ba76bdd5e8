import NodeAdmission.Base64
import NodeAdmission.Proofs.Utf8

/-!
# Base64 both ways

Reading undoes writing, and nothing else is read: a byte string is a spelling of `bytes` only if it
is the one that `encode` writes. The proof follows the reader.

* `valueAt_eq_ok_iff` — a symbol has one value.
* `decodeQuad_eq_ok_iff` — four symbols spell three bytes.
* `eq_encode_of_decodeLast`, `decodeLast_encode` — the last group spells what is left
  over, in the two directions.
* `decodeFrom_eq_ok_iff` — whole spellings, by the recursion of the reader.
* `decode_eq_ok_iff` — the main statement.

The last group is where a lenient reader would take more. Two symbols hold twelve bits and spell one
byte; three hold eighteen and spell two. The bits that are left have to be zero (`encode_single`,
`encode_couple`), and without this check several groups would spell the same bytes.

The numbers of the writer are quotients and remainders of bytes, and `omega` knows them once the
bytes are known to be below 256. That is why `toNat_lt` is stated for each byte before it.
-/

namespace NodeAdmission

section

variable {ε α β : Type} {x : Except ε α} {e : ε}

/-- What is read in two steps is read in each of them. -/
theorem bind_eq_ok_iff {f : α → Except ε β} {v : β} :
    x >>= f = .ok v ↔ ∃ u, x = .ok u ∧ f u = .ok v := by
  cases x with
  | error e => exact ⟨nofun, fun ⟨_, hu, _⟩ => nomatch hu⟩
  | ok u => exact ⟨fun h => ⟨u, rfl, h⟩, fun ⟨_, hu, h⟩ => Except.ok.inj hu ▸ h⟩

/-- What goes wrong in two steps goes wrong in one of them. -/
theorem bind_eq_error_iff {f : α → Except ε β} :
    x >>= f = .error e ↔ x = .error e ∨ ∃ u, x = .ok u ∧ f u = .error e := by
  cases x with
  | error e' =>
    exact ⟨fun h => .inl (congrArg _ (Except.error.inj h)), by rintro (⟨⟨⟩⟩ | ⟨_, ⟨⟩, _⟩); rfl⟩
  | ok u => exact ⟨fun h => .inr ⟨u, rfl, h⟩, by rintro (⟨⟨⟩⟩ | ⟨_, ⟨⟩, h⟩); exact h⟩

theorem map_eq_ok_iff {f : α → β} {v : β} : x.map f = .ok v ↔ ∃ u, x = .ok u ∧ f u = v := by
  cases x <;> simp [Except.map]

theorem map_eq_error_iff {f : α → β} : x.map f = .error e ↔ x = .error e := by
  cases x <;> simp [Except.map]

end

end NodeAdmission

namespace NodeAdmission.Base64

variable {a b c d e : UInt8} {bytes done group text : Bytes} {start offset pads n : Nat}
  {ns : List Nat}

/-! ### Symbols -/

theorem value?_symbol (hn : n < 64) : value? (symbol n) = some n := by
  have hall : ∀ n < 64, value? (symbol n) = some n := by decide +kernel
  exact hall n hn

theorem symbol_ne_pad (hn : n < 64) : symbol n ≠ pad := by
  have hall : ∀ n < 64, symbol n ≠ pad := by decide +kernel
  exact hall n hn

/-- Only symbols have values. -/
theorem symbol_of_value? (h : value? b = some n) : n < 64 ∧ b = symbol n := by
  have hall : ∀ i < 256, ∀ n ∈ value? (UInt8.ofNat i), n < 64 ∧ UInt8.ofNat i = symbol n := by
    decide +kernel
  have hb := hall b.toNat b.toNat_lt n
  rw [UInt8.ofNat_toNat] at hb
  exact hb h

/-- A byte has a value just if it is the symbol of this value. -/
theorem valueAt_eq_ok_iff : valueAt b offset = .ok n ↔ n < 64 ∧ b = symbol n := by
  unfold valueAt
  constructor
  · intro h
    cases hvalue : value? b with
    | none => simp [hvalue] at h
    | some m =>
      obtain rfl : m = n := by simpa [hvalue] using h
      exact symbol_of_value? hvalue
  · rintro ⟨hn, rfl⟩
    rw [value?_symbol hn]

/-! ### Full groups -/

/-- Three bytes out of four values are written as the symbols of these values. -/
theorem encode_bytesOfQuad {w x y z : Nat} (hw : w < 64) (hx : x < 64) (hy : y < 64) (hz : z < 64) :
    encode (bytesOfQuad w x y z) = [symbol w, symbol x, symbol y, symbol z] := by
  have h₁ : (UInt8.ofNat (w * 4 + x / 16)).toNat = w * 4 + x / 16 :=
    Utf8.toNat_byte (by omega)
  have h₂ : (UInt8.ofNat (x % 16 * 16 + y / 4)).toNat = x % 16 * 16 + y / 4 :=
    Utf8.toNat_byte (by omega)
  have h₃ : (UInt8.ofNat (y % 4 * 64 + z)).toNat = y % 4 * 64 + z :=
    Utf8.toNat_byte (by omega)
  have e₁ : (w * 4 + x / 16) / 4 = w := by omega
  have e₂ : (w * 4 + x / 16) % 4 * 16 + (x % 16 * 16 + y / 4) / 16 = x := by omega
  have e₃ : (x % 16 * 16 + y / 4) % 16 * 4 + (y % 4 * 64 + z) / 64 = y := by omega
  have e₄ : (y % 4 * 64 + z) % 64 = z := by omega
  rw [bytesOfQuad, encode, h₁, h₂, h₃, e₁, e₂, e₃, e₄, encode]

/-- Four values out of three bytes make these bytes again. -/
theorem bytesOfQuad_eq (x y z : UInt8) :
    bytesOfQuad (x.toNat / 4) (x.toNat % 4 * 16 + y.toNat / 16) (y.toNat % 16 * 4 + z.toNat / 64)
      (z.toNat % 64) = [x, y, z] := by
  have hx := x.toNat_lt
  have hy := y.toNat_lt
  have hz := z.toNat_lt
  rw [bytesOfQuad, Utf8.byte_eq (b := x) (by omega), Utf8.byte_eq (b := y) (by omega),
    Utf8.byte_eq (b := z) (by omega)]

/-- A group of four symbols is read as the three bytes of which it is the spelling. -/
theorem decodeQuad_eq_ok_iff :
    decodeQuad offset a b c d = .ok bytes ↔
      ∃ x y z, bytes = [x, y, z] ∧ [a, b, c, d] = encode [x, y, z] := by
  -- First the four steps of the reader, as one statement on four values.
  have hvalues : decodeQuad offset a b c d = .ok bytes ↔
      ∃ w x y z, (w < 64 ∧ a = symbol w) ∧ (x < 64 ∧ b = symbol x) ∧ (y < 64 ∧ c = symbol y) ∧
        (z < 64 ∧ d = symbol z) ∧ bytesOfQuad w x y z = bytes := by
    unfold decodeQuad
    simp only [bind_eq_ok_iff, valueAt_eq_ok_iff, pure, Except.pure, Except.ok.injEq]
    grind
  rw [hvalues]
  constructor
  · rintro ⟨w, x, y, z, ⟨hw, rfl⟩, ⟨hx, rfl⟩, ⟨hy, rfl⟩, ⟨hz, rfl⟩, rfl⟩
    exact ⟨_, _, _, rfl, (encode_bytesOfQuad hw hx hy hz).symm⟩
  · rintro ⟨x, y, z, rfl, hquad⟩
    have hx := x.toNat_lt
    have hy := y.toNat_lt
    have hz := z.toNat_lt
    simp only [encode, List.cons.injEq, and_true] at hquad
    obtain ⟨ha, hb, hc, hd⟩ := hquad
    exact ⟨_, _, _, _, ⟨by omega, ha⟩, ⟨by omega, hb⟩, ⟨by omega, hc⟩, ⟨by omega, hd⟩,
      bytesOfQuad_eq x y z⟩

/-! ### The last group

Only the last group may have padding, and only there can bits be left over. That the two lemmas of
this section meet (`decodeLast_encode`, `eq_encode_of_decodeLast`) is what makes spellings unique.
-/

/-- Symbols with padding behind them are taken apart, if there are at least two symbols. -/
theorem lastValues_symbols (pads : Nat) {index : Nat} (hns : ∀ n ∈ ns, n < 64)
    (hpads : pads = 0 ∨ 2 ≤ index + ns.length) :
    lastValues start index (ns.map symbol ++ List.replicate pads pad) = .ok (ns, pads) := by
  induction ns generalizing index with
  | nil =>
    cases pads with
    | zero => rfl
    | succ pads =>
      -- Padding may begin, since at least two symbols are in front of it.
      have hindex : ¬ index < 2 := by
        rw [List.length_nil] at hpads
        omega
      have hall : (List.replicate pads pad).all (· = pad) = true := by simp
      rw [List.map_nil, List.nil_append, List.replicate_succ, lastValues, if_pos rfl,
        if_neg hindex, if_pos hall, List.length_replicate]
  | cons n ns ih =>
    have hn := hns n List.mem_cons_self
    have hvalue : valueAt (symbol n) (start + index) = .ok n := valueAt_eq_ok_iff.mpr ⟨hn, rfl⟩
    have hmore : pads = 0 ∨ 2 ≤ index + 1 + ns.length := by
      rw [List.length_cons] at hpads
      omega
    have hrest := ih (fun m hm => hns m (List.mem_cons_of_mem n hm)) hmore
    rw [List.map_cons, List.cons_append, lastValues, if_neg (symbol_ne_pad hn), hvalue]
    exact bind_eq_ok_iff.mpr ⟨n, rfl, bind_eq_ok_iff.mpr ⟨_, hrest, rfl⟩⟩

/-- What is taken apart was symbols with padding behind them. -/
theorem of_lastValues {index : Nat} (h : lastValues start index group = .ok (ns, pads)) :
    group = ns.map symbol ++ List.replicate pads pad ∧ ∀ n ∈ ns, n < 64 := by
  induction group generalizing index ns with
  | nil =>
    cases h
    exact ⟨rfl, nofun⟩
  | cons b rest ih =>
    rw [lastValues] at h
    -- The first sign of padding has to be followed by padding only.
    by_cases hb : b = pad
    · rw [if_pos hb] at h
      split at h
      · cases h
      · split at h
        · next hall =>
          cases h
          have hrest : rest = List.replicate rest.length pad := by
            simpa [List.eq_replicate_iff] using hall
          rw [hb, List.map_nil, List.nil_append, List.replicate_succ, ← hrest]
          exact ⟨rfl, nofun⟩
        · cases h
    · rw [if_neg hb] at h
      obtain ⟨n, hvalue, h⟩ := bind_eq_ok_iff.mp h
      obtain ⟨⟨ms, _⟩, hrest, hpair⟩ := bind_eq_ok_iff.mp h
      cases hpair
      obtain ⟨hn, rfl⟩ := valueAt_eq_ok_iff.mp hvalue
      obtain ⟨rfl, hms⟩ := ih hrest
      exact ⟨rfl, List.forall_mem_cons.mpr ⟨hn, hms⟩⟩

/-- Two values whose last four bits are zero spell one byte. -/
theorem encode_single {w x : Nat} (hw : w < 64) (hx : x < 64) (hzero : x % 16 = 0) :
    encode [UInt8.ofNat (w * 4 + x / 16)] = [symbol w, symbol x, pad, pad] := by
  have h₁ : (UInt8.ofNat (w * 4 + x / 16)).toNat = w * 4 + x / 16 :=
    Utf8.toNat_byte (by omega)
  have e₁ : (w * 4 + x / 16) / 4 = w := by omega
  have e₂ : (w * 4 + x / 16) % 4 * 16 = x := by omega
  rw [encode, h₁, e₁, e₂]

/-- Three values whose last two bits are zero spell two bytes. -/
theorem encode_couple {w x y : Nat} (hw : w < 64) (hx : x < 64) (hy : y < 64) (hzero : y % 4 = 0) :
    encode [UInt8.ofNat (w * 4 + x / 16), UInt8.ofNat (x % 16 * 16 + y / 4)] =
      [symbol w, symbol x, symbol y, pad] := by
  have h₁ : (UInt8.ofNat (w * 4 + x / 16)).toNat = w * 4 + x / 16 :=
    Utf8.toNat_byte (by omega)
  have h₂ : (UInt8.ofNat (x % 16 * 16 + y / 4)).toNat = x % 16 * 16 + y / 4 :=
    Utf8.toNat_byte (by omega)
  have e₁ : (w * 4 + x / 16) / 4 = w := by omega
  have e₂ : (w * 4 + x / 16) % 4 * 16 + (x % 16 * 16 + y / 4) / 16 = x := by omega
  have e₃ : (x % 16 * 16 + y / 4) % 16 * 4 = y := by omega
  rw [encode, h₁, h₂, e₁, e₂, e₃]

/-- A last group that is read is a spelling, by the number of its symbols. -/
theorem eq_encode_of_decodeLast (hlength : group.length ≤ 4)
    (h : decodeLast start group = .ok bytes) : group = encode bytes := by
  obtain ⟨⟨ns, pads⟩, hvalues, hread⟩ := bind_eq_ok_iff.mp h
  -- The group is its symbols and then its padding; their numbers leave three cases.
  obtain ⟨rfl, hns⟩ := of_lastValues hvalues
  rw [List.length_append, List.length_map, List.length_replicate] at hlength
  simp only at hread
  split at hread
  · cases hread
  next hmany =>
  split at hread
  · cases hread
  next hfull =>
  split at hread
  · -- Two symbols and two signs of padding.
    next w x =>
    split at hread
    · next hzero =>
      cases hread
      obtain rfl : pads = 2 := by simp at hfull hlength; omega
      rw [encode_single (hns w (by simp)) (hns x (by simp)) hzero]
      rfl
    · cases hread
  · -- Three symbols and one sign of padding.
    next w x y =>
    split at hread
    · next hzero =>
      cases hread
      obtain rfl : pads = 1 := by simp at hfull hlength; omega
      rw [encode_couple (hns w (by simp)) (hns x (by simp)) (hns y (by simp)) hzero]
      rfl
    · cases hread
  · -- Four symbols.
    next w x y z =>
    cases hread
    obtain rfl : pads = 0 := by simp at hlength; omega
    rw [encode_bytesOfQuad (hns w (by simp)) (hns x (by simp)) (hns y (by simp)) (hns z (by simp))]
    rfl
  · cases hread

theorem decodeLast_two {w x : Nat} (hw : w < 64) (hx : x < 64) (hzero : x % 16 = 0) :
    decodeLast start [symbol w, symbol x, pad, pad] = .ok [UInt8.ofNat (w * 4 + x / 16)] := by
  have hns : ∀ n ∈ [w, x], n < 64 := by simp [hw, hx]
  have hvalues : lastValues start 0 [symbol w, symbol x, pad, pad] = .ok ([w, x], 2) :=
    lastValues_symbols 2 hns (by simp)
  rw [decodeLast, hvalues]
  simp [bind, Except.bind, hzero]

theorem decodeLast_three {w x y : Nat} (hw : w < 64) (hx : x < 64) (hy : y < 64)
    (hzero : y % 4 = 0) :
    decodeLast start [symbol w, symbol x, symbol y, pad] =
      .ok [UInt8.ofNat (w * 4 + x / 16), UInt8.ofNat (x % 16 * 16 + y / 4)] := by
  have hns : ∀ n ∈ [w, x, y], n < 64 := by simp [hw, hx, hy]
  have hvalues : lastValues start 0 [symbol w, symbol x, symbol y, pad] = .ok ([w, x, y], 1) :=
    lastValues_symbols 1 hns (by simp)
  rw [decodeLast, hvalues]
  simp [bind, Except.bind, hzero]

theorem decodeLast_four {w x y z : Nat} (hw : w < 64) (hx : x < 64) (hy : y < 64) (hz : z < 64) :
    decodeLast start [symbol w, symbol x, symbol y, symbol z] = .ok (bytesOfQuad w x y z) := by
  have hns : ∀ n ∈ [w, x, y, z], n < 64 := by simp [hw, hx, hy, hz]
  have hvalues : lastValues start 0 [symbol w, symbol x, symbol y, symbol z] =
      .ok ([w, x, y, z], 0) :=
    lastValues_symbols 0 hns (by simp)
  rw [decodeLast, hvalues]
  simp [bind, Except.bind]

/-- The spelling of at most three bytes is read as a last group. -/
theorem decodeLast_encode (hne : bytes ≠ []) (hlength : bytes.length ≤ 3) :
    decodeLast start (encode bytes) = .ok bytes := by
  match bytes with
  | [x] =>
    have hx := x.toNat_lt
    rw [encode, decodeLast_two (by omega) (by omega) (by omega), Utf8.byte_eq (b := x) (by omega)]
  | [x, y] =>
    have hx := x.toNat_lt
    have hy := y.toNat_lt
    rw [encode, decodeLast_three (by omega) (by omega) (by omega) (by omega),
      Utf8.byte_eq (b := x) (by omega), Utf8.byte_eq (b := y) (by omega)]
  | [x, y, z] =>
    have hx := x.toNat_lt
    have hy := y.toNat_lt
    have hz := z.toNat_lt
    rw [encode, encode, decodeLast_four (by omega) (by omega) (by omega) (by omega), bytesOfQuad_eq]
  | _ :: _ :: _ :: _ :: _ =>
    simp only [List.length_cons] at hlength
    omega

/-! ### Whole spellings

The reader takes four symbols at a time while there are more behind them, and leaves the rest to
`decodeLast`. What is written falls apart at the same places (`eq_encode_cons`), so the induction
follows the reader with the lemmas of the last two sections. -/

/-- Every three bytes take four symbols, and what is left over takes four as well. -/
theorem length_encode (bytes : Bytes) : (encode bytes).length = (bytes.length + 2) / 3 * 4 := by
  fun_induction encode bytes with
  | case1 | case2 | case3 => simp
  | case4 a b c rest ih =>
    simp only [List.length_cons]
    omega

/-- A spelling of more than four bytes begins with the spelling of three. -/
theorem eq_encode_cons {rest : Bytes} (h : a :: b :: c :: d :: e :: rest = encode bytes) :
    ∃ x y z tail, bytes = x :: y :: z :: tail ∧ [a, b, c, d] = encode [x, y, z] ∧
      e :: rest = encode tail := by
  fun_cases encode bytes with
  | case1 | case2 | case3 => simp [encode] at h
  | case4 x y z tail =>
    simp only [encode, List.cons.injEq] at h
    obtain ⟨rfl, rfl, rfl, rfl, hrest⟩ := h
    exact ⟨x, y, z, tail, rfl, rfl, hrest⟩

theorem encode_triple_append (x y z : UInt8) (tail : Bytes) :
    encode (x :: y :: z :: tail) = encode [x, y, z] ++ encode tail := rfl

theorem decodeLast_of_eq (hne : group ≠ []) (hlength : group.length ≤ 4)
    (h : group = encode bytes) : decodeLast start group = .ok bytes := by
  subst h
  apply decodeLast_encode
  · rintro rfl
    exact hne rfl
  · rw [length_encode] at hlength
    omega

theorem length_le_four (h : ∀ a b c d e rest, group = a :: b :: c :: d :: e :: rest → False) :
    group.length ≤ 4 := by
  match group with
  | [] | [_] | [_, _] | [_, _, _] | [_, _, _, _] => simp
  | a :: b :: c :: d :: e :: rest => exact (h a b c d e rest rfl).elim

/-- What is read is what was read already, followed by the bytes that the rest spells. -/
theorem decodeFrom_eq_ok_iff :
    decodeFrom done offset text = .ok bytes ↔
      ∃ tail, bytes = done.reverse ++ tail ∧ text = encode tail := by
  fun_induction decodeFrom done offset text with
  | case1 done offset =>
    constructor
    · rintro ⟨⟩
      exact ⟨[], (List.append_nil _).symm, rfl⟩
    · rintro ⟨tail, rfl, htail⟩
      obtain rfl : tail = [] := by
        have hlength := congrArg List.length htail
        rw [length_encode, List.length_nil] at hlength
        exact List.length_eq_zero_iff.mp (by omega)
      rw [List.append_nil]
  -- A group in front is refused, so the text is no spelling.
  | case2 done offset a b c d e rest err hquad =>
    refine ⟨nofun, ?_⟩
    rintro ⟨_, -, htext⟩
    obtain ⟨x, y, z, tail, rfl, hsymbols, -⟩ := eq_encode_cons htext
    have hok : decodeQuad offset a b c d = _ := decodeQuad_eq_ok_iff.mpr ⟨x, y, z, rfl, hsymbols⟩
    rw [hquad] at hok
    cases hok
  -- A group in front is read, and the rest by the induction hypothesis.
  | case3 done offset a b c d e rest quad hquad ih =>
    obtain ⟨x, y, z, rfl, hsymbols⟩ := decodeQuad_eq_ok_iff.mp hquad
    rw [ih, List.reverse_append, List.reverse_reverse]
    constructor
    · rintro ⟨tail, rfl, hrest⟩
      refine ⟨x :: y :: z :: tail, by simp, ?_⟩
      rw [encode_triple_append, ← hsymbols, ← hrest]
      rfl
    · rintro ⟨_, rfl, htext⟩
      obtain ⟨x', y', z', tail, rfl, hsymbols', hrest⟩ := eq_encode_cons htext
      have hok : decodeQuad offset a b c d = _ :=
        decodeQuad_eq_ok_iff.mpr ⟨x', y', z', rfl, hsymbols'⟩
      rw [hquad] at hok
      cases hok
      exact ⟨tail, by simp, hrest⟩
  -- At most four symbols are left.
  | case4 done offset group hne hshort err hlast =>
    refine ⟨nofun, ?_⟩
    rintro ⟨tail, -, htail⟩
    rw [decodeLast_of_eq hne (length_le_four hshort) htail] at hlast
    cases hlast
  | case5 done offset group hne hshort last hlast =>
    constructor
    · rintro ⟨⟩
      exact ⟨last, rfl, eq_encode_of_decodeLast (length_le_four hshort) hlast⟩
    · rintro ⟨tail, rfl, htail⟩
      rw [decodeLast_of_eq hne (length_le_four hshort) htail] at hlast
      cases hlast
      rfl

/-- A text is read as `bytes` just if it is what is written for them. -/
theorem decode_eq_ok_iff : decode text = .ok bytes ↔ text = encode bytes := by
  -- The test for a last symbol that stands alone does not concern spellings.
  have hstray : text = encode bytes → strayLast? text = none := by
    rintro rfl
    rw [strayLast?, if_neg]
    rw [length_encode]
    omega
  unfold decode
  constructor
  · intro h
    cases hlast : strayLast? text with
    | some err =>
      rw [hlast] at h
      cases h
    | none =>
      rw [hlast] at h
      obtain ⟨tail, rfl, htext⟩ := decodeFrom_eq_ok_iff.mp h
      exact htext
  · intro h
    rw [hstray h]
    exact decodeFrom_eq_ok_iff.mpr ⟨bytes, rfl, h⟩

/-! ### Spellings as text -/

/-- Symbols are ASCII. -/
theorem toNat_symbol_lt (n : Nat) : (symbol n).toNat < 0x80 := by
  have hascii : ∀ m, m < 0x80 → (UInt8.ofNat m).toNat < 0x80 := by
    intro m hm
    rw [Utf8.toNat_byte (by omega)]
    exact hm
  unfold symbol
  split
  · exact hascii _ (by omega)
  split
  · exact hascii _ (by omega)
  split
  · exact hascii _ (by omega)
  split
  · decide
  · decide

theorem toNat_lt_of_mem_encode (h : b ∈ encode bytes) : b.toNat < 0x80 := by
  have hpad : pad.toNat < 0x80 := by decide
  fun_induction encode bytes with
  | case1 => cases h
  | case2 | case3 =>
    simp only [List.mem_cons, List.not_mem_nil, or_false] at h
    rcases h with rfl | rfl | rfl | rfl <;> first | exact toNat_symbol_lt _ | exact hpad
  | case4 x y z rest ih =>
    simp only [List.mem_cons] at h
    rcases h with rfl | rfl | rfl | rfl | h
    · exact toNat_symbol_lt _
    · exact toNat_symbol_lt _
    · exact toNat_symbol_lt _
    · exact toNat_symbol_lt _
    · exact ih h

theorem encode_ne_nil (h : bytes ≠ []) : encode bytes ≠ [] := by
  have hlength := length_encode bytes
  have hpos := List.length_pos_iff.mpr h
  exact List.ne_nil_of_length_pos (by omega)

end NodeAdmission.Base64
