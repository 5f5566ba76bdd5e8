import NodeAdmission.Text.Utf8

/-!
# UTF-8 both ways

What is written is read back, strictly and leniently, and different texts have different bytes.
Both readers go through `next`, which takes one character off the front, so all that has to be
known is what `next` does.

* `next_encodeChar` — `next` takes a written character off the front, for each of the four widths.
* `decode_encode`, `decodeLossy_encode`, `encode_injective` follow by induction on the characters.
* `eq_encodeChar_append_of_next` — the other way round: `next` reads a character only off its own
  bytes. Overlong forms, surrogates and numbers beyond the last character are refused by the range
  of the second byte (`allowsSecond_iff`), so no character has two forms.
* `decode_eq_ok_iff` — the strict reader accepts what is written and nothing else.
* `encode_decodeLossy_of_not_mem` — what the lenient reader gives was in the bytes, unless it holds
  the character that is put in the place of something else. That is an implication only: the
  character itself may have been written.

The bytes are handled by their numbers. A byte of a written character is `UInt8.ofNat` of a small
sum, and `toNat_byte` takes the conversion away so that `omega` can do the rest.
-/

namespace NodeAdmission.Utf8

variable {n : Nat} {c : Char} {cs done : List Char} {lead b₁ b₂ b₃ : UInt8} {rest : Bytes}

/-! ### Reading one character

`next` takes one character off the front. There is one lemma for each number of bytes that a
character may have; the conditions are those on the first byte and on the ones that continue it. -/

theorem not_lt_of_toNat_le {k : UInt8} (h : k.toNat ≤ lead.toNat) : ¬ lead < k :=
  UInt8.not_lt.mpr (UInt8.le_iff_toNat_le.mpr h)

theorem next_one (h : lead.toNat < 0x80) : next lead rest = .char (Char.ofNat lead.toNat) rest := by
  unfold next
  rw [if_pos (UInt8.lt_iff_toNat_lt.mpr h)]

theorem next_two (hmin : 0xC2 ≤ lead.toNat) (hmax : lead.toNat < 0xE0)
    (h₁ : isContinuation b₁ = true) :
    next lead (b₁ :: rest) = .char (Char.ofNat ((lead.toNat - 0xC0) * 64 + payload b₁)) rest := by
  have hone : ¬ lead < 0x80 := not_lt_of_toNat_le (Nat.le_trans (by decide) hmin)
  have hnone : ¬ lead < 0xC2 := not_lt_of_toNat_le hmin
  unfold next
  rw [if_neg hone, if_neg hnone, if_pos (UInt8.lt_iff_toNat_lt.mpr hmax)]
  simp only [h₁, if_true]

/-- Three bytes, of which the second keeps to the range that the first leaves it. -/
theorem next_three (hmin : 0xE0 ≤ lead.toNat) (hmax : lead.toNat < 0xF0)
    (h₁ : allowsSecond lead b₁ = true) (h₂ : isContinuation b₂ = true) :
    next lead (b₁ :: b₂ :: rest) =
      .char (Char.ofNat ((lead.toNat - 0xE0) * 4096 + payload b₁ * 64 + payload b₂)) rest := by
  have hone : ¬ lead < 0x80 := not_lt_of_toNat_le (Nat.le_trans (by decide) hmin)
  have hnone : ¬ lead < 0xC2 := not_lt_of_toNat_le (Nat.le_trans (by decide) hmin)
  have htwo : ¬ lead < 0xE0 := not_lt_of_toNat_le hmin
  unfold next
  rw [if_neg hone, if_neg hnone, if_neg htwo, if_pos (UInt8.lt_iff_toNat_lt.mpr hmax)]
  simp only [h₁, h₂, if_true]

theorem next_four (hmin : 0xF0 ≤ lead.toNat) (hmax : lead.toNat < 0xF5)
    (h₁ : allowsSecond lead b₁ = true) (h₂ : isContinuation b₂ = true)
    (h₃ : isContinuation b₃ = true) :
    next lead (b₁ :: b₂ :: b₃ :: rest) =
      .char (Char.ofNat ((lead.toNat - 0xF0) * 262144 + payload b₁ * 4096 + payload b₂ * 64 +
        payload b₃)) rest := by
  have hone : ¬ lead < 0x80 := not_lt_of_toNat_le (Nat.le_trans (by decide) hmin)
  have hnone : ¬ lead < 0xC2 := not_lt_of_toNat_le (Nat.le_trans (by decide) hmin)
  have htwo : ¬ lead < 0xE0 := not_lt_of_toNat_le (Nat.le_trans (by decide) hmin)
  have hthree : ¬ lead < 0xF0 := not_lt_of_toNat_le hmin
  unfold next
  rw [if_neg hone, if_neg hnone, if_neg htwo, if_neg hthree,
    if_pos (UInt8.lt_iff_toNat_lt.mpr hmax)]
  simp only [h₁, h₂, h₃, if_true]

/-! ### What is written

Bytes are replaced by their numbers. The first lemmas are about single bytes, and `next_encodeChar`
goes through the four widths of a character with them. -/

-- With the bound as a numeral, which `omega` does not see in `UInt8.size`.
theorem toNat_byte (h : n < 256) : (UInt8.ofNat n).toNat = n :=
  UInt8.toNat_ofNat_of_lt' (by rw [UInt8.size]; exact h)

/-- A byte is known by its number. -/
theorem byte_eq {b : UInt8} (h : n = b.toNat) : UInt8.ofNat n = b := by
  rw [h, UInt8.ofNat_toNat]

theorem toNat_continuation (h : n < 64) : (UInt8.ofNat (0x80 + n)).toNat = 0x80 + n :=
  toNat_byte (by omega)

theorem payload_continuation (h : n < 64) : payload (UInt8.ofNat (0x80 + n)) = n := by
  unfold payload
  rw [toNat_continuation h]
  omega

theorem isContinuation_iff {b : UInt8} :
    isContinuation b = true ↔ 0x80 ≤ b.toNat ∧ b.toNat ≤ 0xBF := by
  simp [isContinuation, UInt8.le_iff_toNat_le]

/-- A continuation is its six bits above 0x80. -/
theorem toNat_of_isContinuation {b : UInt8} (h : isContinuation b = true) :
    b.toNat = 0x80 + payload b ∧ payload b < 64 := by
  rw [isContinuation_iff] at h
  unfold payload
  omega

theorem isContinuation_continuation (h : n < 64) :
    isContinuation (UInt8.ofNat (0x80 + n)) = true := by
  rw [isContinuation_iff, toNat_continuation h]
  omega

/-- The range of a second byte, with the four first bytes that narrow it. -/
theorem allowsSecond_iff {b : UInt8} :
    allowsSecond lead b = true ↔ 0x80 ≤ b.toNat ∧ b.toNat ≤ 0xBF ∧
      (lead.toNat = 0xE0 → 0xA0 ≤ b.toNat) ∧ (lead.toNat = 0xED → b.toNat ≤ 0x9F) ∧
      (lead.toNat = 0xF0 → 0x90 ≤ b.toNat) ∧ (lead.toNat = 0xF4 → b.toNat ≤ 0x8F) := by
  unfold allowsSecond isContinuation
  simp only [← UInt8.toNat_inj, UInt8.le_iff_toNat_le]
  grind

/-- Reading takes one written character off the front. -/
theorem next_encodeChar (c : Char) (rest : Bytes) :
    ∃ lead tail, encodeChar c = lead :: tail ∧ next lead (tail ++ rest) = .char c rest := by
  have hvalid : c.toNat < 0xD800 ∨ 0xDFFF < c.toNat ∧ c.toNat < 0x110000 := c.valid
  have hback : Char.ofNat c.toNat = c := Char.ofNat_toNat c
  unfold encodeChar
  -- From here on the character is a number, and the range is all that is known of it.
  generalize c.toNat = n at hvalid hback
  simp only
  split
  · next hone =>
    have hlead := toNat_byte (n := n) (by omega)
    refine ⟨_, _, rfl, ?_⟩
    rw [next_one (by omega), hlead, hback]
    rfl
  split
  · next hone htwo =>
    have hlead := toNat_byte (n := 0xC0 + n / 64) (by omega)
    have hlow : n % 64 < 64 := Nat.mod_lt _ (by decide)
    have hsum : (0xC0 + n / 64 - 0xC0) * 64 + n % 64 = n := by omega
    refine ⟨_, _, rfl, ?_⟩
    rw [List.singleton_append, next_two (by omega) (by omega) (isContinuation_continuation hlow),
      hlead, payload_continuation hlow, hsum, hback]
  split
  · next hone htwo hthree =>
    have hlead := toNat_byte (n := 0xE0 + n / 4096) (by omega)
    have hmiddle : n / 64 % 64 < 64 := Nat.mod_lt _ (by decide)
    have hlow : n % 64 < 64 := Nat.mod_lt _ (by decide)
    have hsum : (0xE0 + n / 4096 - 0xE0) * 4096 + n / 64 % 64 * 64 + n % 64 = n := by omega
    have hsecond : allowsSecond (UInt8.ofNat (0xE0 + n / 4096))
        (UInt8.ofNat (0x80 + n / 64 % 64)) = true := by
      rw [allowsSecond_iff, hlead, toNat_continuation hmiddle]
      omega
    refine ⟨_, _, rfl, ?_⟩
    rw [List.cons_append, List.singleton_append,
      next_three (by omega) (by omega) hsecond (isContinuation_continuation hlow), hlead,
      payload_continuation hmiddle, payload_continuation hlow, hsum, hback]
  · next hone htwo hthree =>
    have hlead := toNat_byte (n := 0xF0 + n / 262144) (by omega)
    have hhigh : n / 4096 % 64 < 64 := Nat.mod_lt _ (by decide)
    have hmiddle : n / 64 % 64 < 64 := Nat.mod_lt _ (by decide)
    have hlow : n % 64 < 64 := Nat.mod_lt _ (by decide)
    have hsum : (0xF0 + n / 262144 - 0xF0) * 262144 + n / 4096 % 64 * 4096 + n / 64 % 64 * 64 +
        n % 64 = n := by omega
    have hsecond : allowsSecond (UInt8.ofNat (0xF0 + n / 262144))
        (UInt8.ofNat (0x80 + n / 4096 % 64)) = true := by
      rw [allowsSecond_iff, hlead, toNat_continuation hhigh]
      omega
    refine ⟨_, _, rfl, ?_⟩
    rw [List.cons_append, List.cons_append, List.singleton_append,
      next_four (by omega) (by omega) hsecond (isContinuation_continuation hmiddle)
        (isContinuation_continuation hlow), hlead,
      payload_continuation hhigh, payload_continuation hmiddle, payload_continuation hlow, hsum,
      hback]

/-- A character below U+0080 is its own byte, and any other has no byte below 0x80. -/
theorem toNat_of_mem_encodeChar {b : UInt8} (h : b ∈ encodeChar c) :
    c.toNat < 0x80 ∧ b.toNat = c.toNat ∨ 0x80 ≤ c.toNat ∧ 0x80 ≤ b.toNat := by
  have hvalid : c.toNat < 0x110000 := by
    have := c.valid
    grind [Char.toNat]
  unfold encodeChar at h
  generalize c.toNat = n at h hvalid
  simp only at h
  split at h
  · next hone =>
    obtain rfl := List.mem_singleton.mp h
    exact .inl ⟨hone, toNat_byte (by omega)⟩
  · next hone =>
    refine .inr ⟨by omega, ?_⟩
    -- In the longer forms every byte is 0x80 or more.
    have hhigh : ∀ m, m < 256 → 0x80 ≤ m → b = UInt8.ofNat m → 0x80 ≤ b.toNat := by
      rintro m hm hmin rfl
      rw [toNat_byte hm]
      exact hmin
    split at h
    · next htwo =>
      simp only [List.mem_cons, List.not_mem_nil, or_false] at h
      rcases h with h | h <;> exact hhigh _ (by omega) (by omega) h
    split at h
    · next htwo hthree =>
      simp only [List.mem_cons, List.not_mem_nil, or_false] at h
      rcases h with h | h | h <;> exact hhigh _ (by omega) (by omega) h
    · next htwo hthree =>
      simp only [List.mem_cons, List.not_mem_nil, or_false] at h
      rcases h with h | h | h | h <;> exact hhigh _ (by omega) (by omega) h

/-! ### Texts -/

/-- The strict reader goes on behind what `next` takes off. -/
theorem decodeFrom_of_next {bytes : Bytes} {offset : Nat} (h : next lead bytes = .char c rest) :
    decodeFrom done offset (lead :: bytes) =
      decodeFrom (c :: done) (offset + (encodeChar c).length) rest := by
  rw [decodeFrom]
  split
  · next c' r h' =>
    rw [h] at h'
    cases h'
    rfl
  · next h' => exact Front.noConfusion (h.symm.trans h')
  · next h' => exact Front.noConfusion (h.symm.trans h')

/-- The lenient reader goes on behind it as well. -/
theorem lossyFrom_of_next {bytes : Bytes} (h : next lead bytes = .char c rest) :
    lossyFrom done (lead :: bytes) = lossyFrom (c :: done) rest := by
  rw [lossyFrom]
  split
  · next c' r h' =>
    rw [h] at h'
    cases h'
    rfl
  · next h' => exact Front.noConfusion (h.symm.trans h')
  · next h' => exact Front.noConfusion (h.symm.trans h')

/-- The strict reader reads the characters that are written. -/
theorem decodeFrom_encodeChars (cs done : List Char) (offset : Nat) :
    decodeFrom done offset (encodeChars cs) = .ok (done.reverse ++ cs) := by
  induction cs generalizing done offset with
  | nil => rw [encodeChars_nil, decodeFrom, List.append_nil]
  | cons c cs ih =>
    obtain ⟨lead, tail, hbytes, hnext⟩ := next_encodeChar c (encodeChars cs)
    rw [encodeChars_cons, hbytes, List.cons_append, decodeFrom_of_next hnext, ih,
      List.reverse_cons, List.append_assoc, List.singleton_append]

theorem lossyFrom_encodeChars (cs done : List Char) :
    lossyFrom done (encodeChars cs) = done.reverse ++ cs := by
  induction cs generalizing done with
  | nil => rw [encodeChars_nil, lossyFrom, List.append_nil]
  | cons c cs ih =>
    obtain ⟨lead, tail, hbytes, hnext⟩ := next_encodeChar c (encodeChars cs)
    rw [encodeChars_cons, hbytes, List.cons_append, lossyFrom_of_next hnext, ih,
      List.reverse_cons, List.append_assoc, List.singleton_append]

theorem decode_encode (s : String) : decode (encode s) = .ok s := by
  rw [decode, encode, decodeChars, decodeFrom_encodeChars]
  show Except.ok (String.ofList s.toList) = .ok s
  rw [String.ofList_toList]

/-- The lenient reader replaces nothing in what is written. -/
theorem decodeLossy_encode (s : String) : decodeLossy (encode s) = s := by
  rw [decodeLossy, encode, lossyFrom_encodeChars]
  exact String.ofList_toList

theorem encode_injective : Function.Injective encode := by
  intro s t h
  have hs := decode_encode s
  rw [h, decode_encode] at hs
  exact (Except.ok.inj hs).symm

/-! ### ASCII -/

theorem toNat_ofNat (h : n.isValidChar) : (Char.ofNat n).toNat = n := by
  rw [Char.ofNat, dif_pos h]
  rfl

theorem encodeChar_ofNat {b : UInt8} (h : b.toNat < 0x80) :
    encodeChar (Char.ofNat b.toNat) = [b] := by
  have hback : (Char.ofNat b.toNat).toNat = b.toNat :=
    toNat_ofNat (.inl (Nat.lt_trans h (by decide)))
  rw [encodeChar]
  simp only [hback]
  rw [if_pos h, UInt8.ofNat_toNat]

/-- Bytes that are ASCII are a text. -/
theorem exists_encode_eq {bytes : Bytes} (h : ∀ b ∈ bytes, b.toNat < 0x80) :
    ∃ s, encode s = bytes := by
  refine ⟨String.ofList (bytes.map fun b => Char.ofNat b.toNat), ?_⟩
  rw [encode, String.toList_ofList]
  induction bytes with
  | nil => rfl
  | cons b bytes ih =>
    rw [List.forall_mem_cons] at h
    rw [List.map_cons, encodeChars_cons, encodeChar_ofNat h.1, ih h.2, List.singleton_append]

/-- Even the lenient reader changes nothing in a byte string that is ASCII. -/
theorem encode_decodeLossy {bytes : Bytes} (h : ∀ b ∈ bytes, b.toNat < 0x80) :
    encode (decodeLossy bytes) = bytes := by
  obtain ⟨s, rfl⟩ := exists_encode_eq h
  rw [decodeLossy_encode]

/-! ### What was read

The other way round: a character that was read is the bytes that were taken for it. So a text that
the strict reader accepts has been written by nobody else than `encode`. -/

/-- The character that is read off two bytes is written as these bytes. -/
theorem encodeChar_two (hmin : 0xC2 ≤ lead.toNat) (hmax : lead.toNat < 0xE0)
    (h₁ : isContinuation b₁ = true) :
    encodeChar (Char.ofNat ((lead.toNat - 0xC0) * 64 + payload b₁)) = [lead, b₁] := by
  obtain ⟨hb₁, hlow⟩ := toNat_of_isContinuation h₁
  generalize hvalue : (lead.toNat - 0xC0) * 64 + payload b₁ = n
  have hn : (Char.ofNat n).toNat = n := toNat_ofNat (.inl (by omega))
  rw [encodeChar]
  simp only [hn]
  rw [if_neg (by omega), if_pos (by omega), byte_eq (b := lead) (by omega),
    byte_eq (b := b₁) (by omega)]

/-- The character that is read off three bytes is written as these bytes. -/
theorem encodeChar_three (hmin : 0xE0 ≤ lead.toNat) (hmax : lead.toNat < 0xF0)
    (h₁ : allowsSecond lead b₁ = true) (h₂ : isContinuation b₂ = true) :
    encodeChar (Char.ofNat ((lead.toNat - 0xE0) * 4096 + payload b₁ * 64 + payload b₂)) =
      [lead, b₁, b₂] := by
  obtain ⟨hb₂, hlow₂⟩ := toNat_of_isContinuation h₂
  obtain ⟨hmin₁, hmax₁, hE0, hED, -, -⟩ := allowsSecond_iff.mp h₁
  obtain ⟨hb₁, hlow₁⟩ := toNat_of_isContinuation (isContinuation_iff.mpr ⟨hmin₁, hmax₁⟩)
  generalize hvalue : (lead.toNat - 0xE0) * 4096 + payload b₁ * 64 + payload b₂ = n
  -- The second byte keeps the value out of the shorter forms and off the surrogates.
  have hlong : 0x800 ≤ n := by omega
  have hvalid : n.isValidChar := by
    unfold Nat.isValidChar
    omega
  have hn : (Char.ofNat n).toNat = n := toNat_ofNat hvalid
  rw [encodeChar]
  simp only [hn]
  rw [if_neg (by omega), if_neg (by omega), if_pos (by omega), byte_eq (b := lead) (by omega),
    byte_eq (b := b₁) (by omega), byte_eq (b := b₂) (by omega)]

/-- The character that is read off four bytes is written as these bytes. -/
theorem encodeChar_four (hmin : 0xF0 ≤ lead.toNat) (hmax : lead.toNat < 0xF5)
    (h₁ : allowsSecond lead b₁ = true) (h₂ : isContinuation b₂ = true)
    (h₃ : isContinuation b₃ = true) :
    encodeChar (Char.ofNat ((lead.toNat - 0xF0) * 262144 + payload b₁ * 4096 + payload b₂ * 64 +
      payload b₃)) = [lead, b₁, b₂, b₃] := by
  obtain ⟨hb₂, hlow₂⟩ := toNat_of_isContinuation h₂
  obtain ⟨hb₃, hlow₃⟩ := toNat_of_isContinuation h₃
  obtain ⟨hmin₁, hmax₁, -, -, hF0, hF4⟩ := allowsSecond_iff.mp h₁
  obtain ⟨hb₁, hlow₁⟩ := toNat_of_isContinuation (isContinuation_iff.mpr ⟨hmin₁, hmax₁⟩)
  generalize hvalue : (lead.toNat - 0xF0) * 262144 + payload b₁ * 4096 + payload b₂ * 64 +
    payload b₃ = n
  -- The second byte keeps the value between the shorter forms and the last character.
  have hlong : 0x10000 ≤ n := by omega
  have hvalid : n.isValidChar := .inr ⟨by omega, by omega⟩
  have hn : (Char.ofNat n).toNat = n := toNat_ofNat hvalid
  rw [encodeChar]
  simp only [hn]
  rw [if_neg (by omega), if_neg (by omega), if_neg (by omega), byte_eq (b := lead) (by omega),
    byte_eq (b := b₁) (by omega), byte_eq (b := b₂) (by omega),
    byte_eq (b := b₃) (by omega)]

/-- What is read as a character is the bytes of this character. -/
theorem eq_encodeChar_append_of_next {bytes : Bytes} (h : next lead bytes = .char c rest) :
    lead :: bytes = encodeChar c ++ rest := by
  unfold next at h
  -- The proof follows `next`: every branch that reads no character is closed by `cases`.
  simp only [UInt8.lt_iff_toNat_lt, UInt8.reduceToNat] at h
  split at h
  · next hone =>
    cases h
    rw [encodeChar_ofNat hone]
    rfl
  split at h
  · cases h
  split at h
  · -- Two bytes.
    next hnone htwo =>
    split at h
    · cases h
    split at h
    · next h₁ =>
      obtain ⟨rfl, rfl⟩ := Front.char.inj h
      rw [encodeChar_two (Nat.le_of_not_lt hnone) htwo h₁]
      rfl
    · cases h
  split at h
  · -- Three bytes.
    next htwo hthree =>
    split at h
    · cases h
    split at h
    · next h₁ =>
      split at h
      · cases h
      split at h
      · next h₂ =>
        obtain ⟨rfl, rfl⟩ := Front.char.inj h
        rw [encodeChar_three (Nat.le_of_not_lt htwo) hthree h₁ h₂]
        rfl
      · cases h
    · cases h
  split at h
  · -- Four bytes.
    next hthree hfour =>
    split at h
    · cases h
    split at h
    · next h₁ =>
      split at h
      · cases h
      split at h
      · next h₂ =>
        split at h
        · cases h
        split at h
        · next h₃ =>
          obtain ⟨rfl, rfl⟩ := Front.char.inj h
          rw [encodeChar_four (Nat.le_of_not_lt hthree) hfour h₁ h₂ h₃]
          rfl
        · cases h
      · cases h
    · cases h
  · cases h

/-- If the lenient reader has replaced nothing then it has read what is there. -/
theorem lossyFrom_spells (done : List Char) (bytes : Bytes) :
    ∃ cs, lossyFrom done bytes = done.reverse ++ cs ∧
      (replacement ∉ cs → encodeChars cs = bytes) := by
  fun_induction lossyFrom done bytes with
  | case1 done => exact ⟨[], (List.append_nil _).symm, fun _ => rfl⟩
  | case2 done b rest c r hnext hlt ih =>
    obtain ⟨cs, hread, hspells⟩ := ih
    refine ⟨c :: cs, ?_, ?_⟩
    · rw [hread, List.reverse_cons, List.append_assoc, List.singleton_append]
    · intro hnone
      rw [encodeChars_cons, hspells (List.not_mem_of_not_mem_cons hnone),
        eq_encodeChar_append_of_next hnext]
  -- Something is replaced, so there is nothing to prove.
  | case3 done b rest n r hnext hlt ih =>
    obtain ⟨cs, hread, -⟩ := ih
    refine ⟨replacement :: cs, ?_, fun hnone => absurd List.mem_cons_self hnone⟩
    rw [hread, List.reverse_cons, List.append_assoc, List.singleton_append]
  | case4 done b rest hnext =>
    exact ⟨[replacement], List.reverse_cons, fun hnone => absurd List.mem_cons_self hnone⟩

/-- What the strict reader accepts are the bytes of the characters that it gives. -/
theorem decodeFrom_spells (done : List Char) (offset : Nat) (bytes : Bytes) {cs : List Char}
    (h : decodeFrom done offset bytes = .ok cs) :
    ∃ more, cs = done.reverse ++ more ∧ encodeChars more = bytes := by
  fun_induction decodeFrom done offset bytes with
  | case1 done offset =>
    obtain rfl := Except.ok.inj h
    exact ⟨[], (List.append_nil _).symm, rfl⟩
  | case2 done offset b rest c r hnext hlt ih =>
    obtain ⟨more, rfl, hspells⟩ := ih h
    refine ⟨c :: more, ?_, ?_⟩
    · rw [List.reverse_cons, List.append_assoc, List.singleton_append]
    · rw [encodeChars_cons, hspells, eq_encodeChar_append_of_next hnext]
  | case3 done offset b rest n r hnext => cases h
  | case4 done offset b rest hnext => cases h

/-- The strict reader accepts what is written, and nothing else. -/
theorem decode_eq_ok_iff {bytes : Bytes} {s : String} :
    decode bytes = .ok s ↔ encode s = bytes := by
  constructor
  · intro h
    rw [decode, decodeChars] at h
    cases hread : decodeFrom [] 0 bytes with
    | error e =>
      rw [hread] at h
      cases h
    | ok cs =>
      rw [hread] at h
      obtain rfl := Except.ok.inj h
      obtain ⟨more, rfl, hspells⟩ := decodeFrom_spells [] 0 bytes hread
      rw [encode, String.toList_ofList]
      exact hspells
  · rintro rfl
    exact decode_encode s

/-- The lenient reader confuses byte strings only where it replaces something. -/
theorem encode_decodeLossy_of_not_mem {bytes : Bytes}
    (h : replacement ∉ (decodeLossy bytes).toList) : encode (decodeLossy bytes) = bytes := by
  obtain ⟨cs, hread, hspells⟩ := lossyFrom_spells [] bytes
  rw [decodeLossy, hread, String.toList_ofList] at h
  rw [encode, decodeLossy, hread, String.toList_ofList]
  exact hspells h

end NodeAdmission.Utf8
