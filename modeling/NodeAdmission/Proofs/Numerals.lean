import Mathlib.Algebra.Order.Ring.Nat
import NodeAdmission.Proofs.Base64
import NodeAdmission.Proofs.Trimming
import NodeAdmission.Text.Numeral

/-!
# Numerals

A reader of numbers goes through the digits from the left and stops at the first problem. What it
accepts in the end are the spellings of the numbers below its bound: decimal digits, with any zeros
in front of them and perhaps a sign.

* `readDigits_eq_ok_iff` — the digits, by induction with the value so far. The bound is checked
  after each of them, and it is enough to check it in the end, since further digits do not make a
  number smaller (`le_ofDigitChars`).
* `Numeral.readUnsigned_eq_ok_iff` — the sign in front.
* `Numeral.ReadsBelow` — the readers of the three widths only differ in the bound.
* `Numeral.denotes_iff` — no digit is blank, so a text that is trimmed and then read may have blanks
  around the numeral and nothing else.

The value of the digits is the library's `Nat.ofDigitChars`, so that the statements
say nothing of the reader.
-/

namespace NodeAdmission.Numeral

variable {α : Type} {cs : List Char} {raw : String} {m n value bound : Nat}

/-! ### Spellings -/

/-- Decimal digits, and the number that they have as its value. There is at least one of them. -/
structure Digits (cs : List Char) (n : Nat) : Prop where
  ne_nil : cs ≠ []
  isDigit : ∀ c ∈ cs, c.isDigit = true
  value : Nat.ofDigitChars 10 cs 0 = n

/-- A number is spelled by digits, perhaps after a plus sign. -/
inductive Spelling : List Char → Nat → Prop
  | digits {cs : List Char} {n : Nat} : Digits cs n → Spelling cs n
  | plus {cs : List Char} {n : Nat} : Digits cs n → Spelling ('+' :: cs) n

/-- A text denotes a number if it spells it, whatever blanks are around the spelling. -/
def Denotes (raw : String) (n : Nat) : Prop :=
  ∃ front cs back, Text.Blanks front ∧ Text.Blanks back ∧ front ++ cs ++ back = raw.toList ∧
    Spelling cs n

theorem not_digits_plus : ¬ Digits ('+' :: cs) n :=
  fun h => absurd (h.isDigit '+' List.mem_cons_self) (by decide)

/-- Behind a plus sign there are digits. -/
theorem spelling_plus_iff : Spelling ('+' :: cs) n ↔ Digits cs n := by
  constructor
  · intro h
    cases h with
    | digits h => exact absurd h not_digits_plus
    | plus h => exact h
  · exact .plus

theorem spelling_iff_digits (hplus : ∀ ds, cs ≠ '+' :: ds) : Spelling cs n ↔ Digits cs n := by
  constructor
  · intro h
    cases h with
    | digits h => exact h
    | plus h => exact absurd rfl (hplus _)
  · exact .digits

/-! ### Reading -/

theorem readDigits_cons_of_isDigit {c : Char} (h : c.isDigit = true) :
    readDigits bound value (c :: cs) =
      if 10 * value + (c.toNat - '0'.toNat) < bound then
        readDigits bound (10 * value + (c.toNat - '0'.toNat)) cs
      else .error .tooLarge := by
  have hdigit : digit? c = some (c.toNat - '0'.toNat) := if_pos (Char.isDigit_iff_toNat.mp h)
  rw [readDigits, hdigit, Nat.mul_comm value 10]

theorem readDigits_cons_of_not_isDigit {c : Char} (h : ¬ c.isDigit = true) :
    readDigits bound value (c :: cs) = .error .invalidDigit := by
  have hdigit : digit? c = none := if_neg (Char.isDigit_iff_toNat.not.mp h)
  rw [readDigits, hdigit]

/-- Further digits do not make a number smaller. -/
theorem le_ofDigitChars (cs : List Char) (value : Nat) : value ≤ Nat.ofDigitChars 10 cs value := by
  rw [Nat.ofDigitChars_eq_ofDigitChars_zero]
  exact Nat.le_add_right_of_le (Nat.le_mul_of_pos_left value (Nat.pow_pos (by decide)))

/-- Digits are read to the end if and only if all of them are digits and their value is below the
bound; then the value was below the bound after each of them. -/
theorem readDigits_eq_ok_iff (hvalue : value < bound) :
    readDigits bound value cs = .ok n ↔
      (∀ c ∈ cs, c.isDigit = true) ∧ Nat.ofDigitChars 10 cs value = n ∧ n < bound := by
  induction cs generalizing value with
  | nil =>
    rw [readDigits, Nat.ofDigitChars_nil, Except.ok.injEq]
    constructor
    · rintro rfl
      exact ⟨List.forall_mem_nil _, rfl, hvalue⟩
    · exact fun h => h.2.1
  | cons c cs ih =>
    rw [List.forall_mem_cons, Nat.ofDigitChars_cons]
    by_cases hdigit : c.isDigit = true
    · rw [readDigits_cons_of_isDigit hdigit]
      generalize 10 * value + (c.toNat - '0'.toNat) = next
      by_cases hnext : next < bound
      · simp only [if_pos hnext, ih hnext, hdigit, true_and]
      · -- The value only grows from here, so it does not fit in the end either.
        have hle := le_ofDigitChars cs next
        simp only [if_neg hnext, reduceCtorEq, false_iff]
        rintro ⟨-, rfl, hn⟩
        exact hnext (Nat.lt_of_le_of_lt hle hn)
    · simp only [readDigits_cons_of_not_isDigit hdigit, hdigit, reduceCtorEq, false_and]

/-- Read from zero, digits are the number that they have as their value. -/
theorem readDigits_zero_eq_ok_iff (hbound : 0 < bound) (hne : cs ≠ []) :
    readDigits bound 0 cs = .ok n ↔ Digits cs n ∧ n < bound := by
  rw [readDigits_eq_ok_iff hbound, ← and_assoc]
  exact and_congr_left fun _ => ⟨fun h => ⟨hne, h.1, h.2⟩, fun h => ⟨h.isDigit, h.value⟩⟩

/-- What is read are the spellings of the numbers below the bound. -/
theorem readUnsigned_eq_ok_iff (hbound : 0 < bound) :
    readUnsigned bound cs = .ok n ↔ Spelling cs n ∧ n < bound := by
  fun_cases readUnsigned bound cs with
  -- Nothing at all.
  | case1 =>
    rw [spelling_iff_digits fun _ => (List.cons_ne_nil _ _).symm]
    exact ⟨nofun, fun h => absurd rfl h.1.ne_nil⟩
  -- A sign alone.
  | case2 =>
    rw [spelling_plus_iff]
    exact ⟨nofun, fun h => absurd rfl h.1.ne_nil⟩
  -- A plus sign and more.
  | case3 cs hne =>
    rw [spelling_plus_iff]
    exact readDigits_zero_eq_ok_iff hbound hne
  | case4 cs hne hsign hplus =>
    rw [spelling_iff_digits hplus]
    exact readDigits_zero_eq_ok_iff hbound hne

/-- A spelling spells just one number. -/
theorem Spelling.unique (hm : Spelling cs m) (hn : Spelling cs n) : m = n := by
  have hread {k : Nat} (hk : Spelling cs k) (hle : k ≤ max m n) :
      readUnsigned (max m n + 1) cs = .ok k :=
    (readUnsigned_eq_ok_iff (Nat.succ_pos _)).mpr ⟨hk, Nat.lt_succ_of_le hle⟩
  have hsame := (hread hm (Nat.le_max_left ..)).symm.trans (hread hn (Nat.le_max_right ..))
  exact Except.ok.inj hsame

/-! ### Blanks around a numeral -/

theorem isBlank_of_isDigit {c : Char} (h : c.isDigit = true) : Text.isBlank c = false := by
  have hrange : 48 ≤ c.toNat ∧ c.toNat ≤ 57 := Char.isDigit_iff_toNat.mp h
  simp only [Text.isBlank, Bool.or_eq_false_iff, Bool.and_eq_false_iff, decide_eq_false_iff_not]
  omega

/-- A spelling has no blanks at its ends. -/
theorem Spelling.bare (h : Spelling cs n) : Text.Bare cs := by
  refine Text.bare_of_forall ?_
  cases h with
  | digits h => exact fun c hc => isBlank_of_isDigit (h.isDigit c hc)
  | plus h =>
    exact List.forall_mem_cons.mpr ⟨by decide, fun c hc => isBlank_of_isDigit (h.isDigit c hc)⟩

/-- What a text denotes is what it spells when it is trimmed. -/
theorem denotes_iff : Denotes raw n ↔ Spelling (Text.trim raw).toList n := by
  rw [Text.trim, String.toList_ofList]
  constructor
  · rintro ⟨front, cs, back, hfront, hback, happend, hspelling⟩
    have htrim := Text.trimChars_eq_iff.mpr ⟨hspelling.bare, front, back, hfront, hback, happend⟩
    exact htrim ▸ hspelling
  · intro hspelling
    obtain ⟨-, front, back, hfront, hback, happend⟩ := Text.trimChars_eq_iff.mp rfl
    exact ⟨front, _, back, hfront, hback, happend, hspelling⟩

theorem Denotes.unique (hm : Denotes raw m) (hn : Denotes raw n) : m = n :=
  (denotes_iff.mp hm).unique (denotes_iff.mp hn)

/-- A number is denoted by its decimal digits. -/
theorem denotes_digits (n : Nat) : Denotes (digits n) n := by
  refine ⟨[], Nat.toDigits 10 n, [], List.forall_mem_nil _, List.forall_mem_nil _, ?_, .digits ?_⟩
  · rw [digits, String.toList_ofList, List.nil_append, List.append_nil]
  · exact
      { ne_nil := Nat.toDigits_ne_nil
        isDigit := fun _ => Nat.isDigit_of_mem_toDigits (by decide) (by decide)
        value := Nat.ofDigitChars_ten_toDigits }

/-! ### Readers -/

/-- A reader that takes the spellings of the numbers below a bound to these numbers, and
nothing else to anything. -/
structure ReadsBelow (read : String → Except NumeralError α) (bound : Nat) (value : α → Nat) :
    Prop where
  eq_ok_iff : ∀ {s a}, read s = .ok a ↔ Spelling s.toList (value a)
  value_lt : ∀ a, value a < bound
  exists_value : ∀ {n}, n < bound → ∃ a, value a = n

/-- A text that is trimmed before it is read is read as what it denotes. -/
theorem ReadsBelow.trim_eq_ok_iff {read : String → Except NumeralError α} {ofValue : α → Nat}
    (h : ReadsBelow read bound ofValue) {a : α} :
    read (Text.trim raw) = .ok a ↔ Denotes raw (ofValue a) := by
  rw [h.eq_ok_iff, denotes_iff]

/-- Numbers below a bound can be kept in a type that has just these numbers. -/
theorem readsBelow_map {ofNat : Nat → α} {toNat : α → Nat} (hlt : ∀ a, toNat a < bound)
    (hto : ∀ a, ofNat (toNat a) = a) (hof : ∀ n < bound, toNat (ofNat n) = n) (hbound : 0 < bound) :
    ReadsBelow (fun s => (readBelow bound s).map ofNat) bound toNat where
  eq_ok_iff := by
    intro s a
    rw [map_eq_ok_iff]
    simp only [readBelow, readUnsigned_eq_ok_iff hbound]
    constructor
    · rintro ⟨n, ⟨hspelling, hn⟩, rfl⟩
      exact (hof n hn).symm ▸ hspelling
    · exact fun hspelling => ⟨toNat a, ⟨hspelling, hlt a⟩, hto a⟩
  value_lt := hlt
  exists_value := fun hn => ⟨ofNat _, hof _ hn⟩

theorem readsBelow_readUInt16 : ReadsBelow readUInt16 (2 ^ 16) UInt16.toNat :=
  readsBelow_map UInt16.toNat_lt (fun _ => UInt16.ofNat_toNat) (fun _ => UInt16.toNat_ofNat_of_lt)
    (by decide)

theorem readsBelow_readUInt32 : ReadsBelow readUInt32 (2 ^ 32) UInt32.toNat :=
  readsBelow_map UInt32.toNat_lt (fun _ => UInt32.ofNat_toNat) (fun _ => UInt32.toNat_ofNat_of_lt)
    (by decide)

theorem readsBelow_readUInt64 : ReadsBelow readUInt64 (2 ^ 64) UInt64.toNat :=
  readsBelow_map UInt64.toNat_lt (fun _ => UInt64.ofNat_toNat) (fun _ => UInt64.toNat_ofNat_of_lt)
    (by decide)

end NodeAdmission.Numeral
