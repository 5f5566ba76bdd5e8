import Mathlib.Tactic.IntervalCases
import NodeAdmission.Proofs.JsonText
import NodeAdmission.Proofs.Utf8

/-!
# The tokens of a JSON text

Pieces of text are read as their tokens. The difficulty is in the numbers: a number is complete only
when a byte follows that is no part of it, so the tokens of a piece of text are not a function of
the piece. `Lexes` says of a piece what the machine has read when such a byte or the end comes next,
and with this form pieces can be put together by their marks and blanks (`Lexes.mark`,
`Lexes.blankBefore`, `Lexes.blankAfter`).

* `run_stringText` — inside a string every character is read as its bytes and every
  escape as what it stands for.
* `run_isWhole`, `run_fractionText`, `run_exponentText` — a number goes through the places of its
  parts, and at each place where it may end a byte that ends it begins the next token.
* `Lexes.quoted`, `Lexes.number` — strings and numbers as pieces of text.
* `Lexes.tokens` — a whole text, where the end plays the part of the byte that comes next.

The machine collects in reverse order, as its digits and pieces show. They are put into their order
when a token is complete.
-/

namespace NodeAdmission.Json

variable {c : Char} {cs ds : List Char} {ts as bs : List Token} {ps content : List Piece}

/-! ### Running over characters -/

namespace Scan

def run (s : Scan) (cs : List Char) : Scan := (Utf8.encodeChars cs).foldl step s

theorem run_append (s : Scan) (cs ds : List Char) : s.run (cs ++ ds) = (s.run cs).run ds := by
  rw [run, Utf8.encodeChars_append, List.foldl_append]
  rfl

theorem run_cons (s : Scan) (c : Char) (cs : List Char) : s.run (c :: cs) = (s.run [c]).run cs :=
  run_append s [c] cs

theorem run_ascii (h : c.toNat < 0x80) (s : Scan) : s.run [c] = s.step (UInt8.ofNat c.toNat) := by
  rw [run, Utf8.encodeChars_cons, Utf8.encodeChar]
  simp [h]

end Scan

/-! ### Strings

Between two characters of a string the machine is in the same mode, only with more content. There is
one lemma for a character that stands for itself, and one for each kind of escape. -/

theorem eq_ofNat {n : Nat} (h : c.toNat = n) : c = Char.ofNat n := h ▸ (Char.ofNat_toNat c).symm

/-- A byte that stands for itself inside a string. -/
def isPlain (b : UInt8) : Prop := 0x20 ≤ b.toNat ∧ b ≠ 0x22 ∧ b ≠ 0x5C

theorem step_plain {b : UInt8} (h : isPlain b) (ts : List Token) (content : List Piece) :
    (⟨ts, .string content .none⟩ : Scan).step b = ⟨ts, .string (.byte b :: content) .none⟩ := by
  obtain ⟨hmin, hquote, hbackslash⟩ := h
  have hcontrol : ¬ b < 0x20 := UInt8.not_lt.mpr (UInt8.le_iff_toNat_le.mpr hmin)
  show Scan.stepString _ content .none b = _
  rw [Scan.stepString, if_neg hquote, if_neg hbackslash, if_neg hcontrol]

/-- Bytes that stand for themselves are collected. -/
theorem foldl_plain (bytes : Bytes) (h : ∀ b ∈ bytes, isPlain b) (ts : List Token)
    (content : List Piece) :
    bytes.foldl Scan.step ⟨ts, .string content .none⟩ =
      ⟨ts, .string ((bytes.map .byte).reverse ++ content) .none⟩ := by
  induction bytes generalizing content with
  | nil => rfl
  | cons b bytes ih =>
    obtain ⟨hb, hrest⟩ := List.forall_mem_cons.mp h
    rw [List.foldl_cons, step_plain hb, ih hrest]
    simp

/-- The bytes of a character stand for themselves unless it is escaped. -/
theorem isPlain_of_mem {b : UInt8} (hcontrol : 0x20 ≤ c.toNat) (hquote : c ≠ '"')
    (hbackslash : c ≠ '\\') (hb : b ∈ Utf8.encodeChar c) : isPlain b := by
  -- An ASCII character is its own byte; the bytes of any other are too large to be special.
  rcases Utf8.toNat_of_mem_encodeChar hb with ⟨-, hsame⟩ | ⟨-, hhigh⟩
  · refine ⟨hsame ▸ hcontrol, ?_, ?_⟩
    · rintro rfl
      exact hquote (eq_ofNat hsame.symm)
    · rintro rfl
      exact hbackslash (eq_ofNat hsame.symm)
  · refine ⟨by omega, ?_, ?_⟩ <;>
    · rintro rfl
      exact absurd hhigh (by decide)

/-- A character that needs no escape is collected as its bytes. -/
theorem run_plain (hcontrol : 0x20 ≤ c.toNat) (hquote : c ≠ '"') (hbackslash : c ≠ '\\')
    (ts : List Token) (content : List Piece) :
    (⟨ts, .string content .none⟩ : Scan).run [c] =
      ⟨ts, .string (((Utf8.encodeChar c).map .byte).reverse ++ content) .none⟩ := by
  rw [Scan.run, Utf8.encodeChars_cons, Utf8.encodeChars_nil, List.append_nil]
  exact foldl_plain _ (fun b => isPlain_of_mem hcontrol hquote hbackslash) ts content

/-- An escape of one letter is collected as the byte that it stands for. -/
theorem run_escape {b : UInt8} (h : (c, b) ∈ escapes) (ts : List Token) (content : List Piece) :
    (⟨ts, .string content .none⟩ : Scan).run ['\\', c] =
      ⟨ts, .string (.byte b :: content) .none⟩ := by
  simp only [escapes, List.mem_cons, List.not_mem_nil, Prod.mk.injEq, or_false] at h
  rcases h with ⟨rfl, rfl⟩ | ⟨rfl, rfl⟩ | ⟨rfl, rfl⟩ | ⟨rfl, rfl⟩ | ⟨rfl, rfl⟩ | ⟨rfl, rfl⟩ |
    ⟨rfl, rfl⟩ | ⟨rfl, rfl⟩ <;> rfl

/-- A hexadecimal digit is one byte, which has the same value. -/
theorem hexDigit?_byte {d : Nat} (h : Numeral.hexDigit? c = some d) :
    c.toNat < 0x80 ∧ Scan.hexDigit? (UInt8.ofNat c.toNat) = some d := by
  have hall : ∀ n < 0x80, Numeral.hexDigit? (Char.ofNat n) = Scan.hexDigit? (UInt8.ofNat n) := by
    decide +kernel
  -- Only ASCII characters are digits, so that the rest is a check of 128 cases.
  have hascii : c.toNat < 0x80 := by
    have hle : ∀ a b : Char, a ≤ b ↔ a.toNat ≤ b.toNat := fun _ _ => Iff.rfl
    have h9 : '9'.toNat = 57 := rfl
    have hf : 'f'.toNat = 102 := rfl
    have hF : 'F'.toNat = 70 := rfl
    unfold Numeral.hexDigit? at h
    simp only [hle] at h
    split at h
    · omega
    split at h
    · omega
    split at h
    · omega
    · cases h
  refine ⟨hascii, ?_⟩
  rw [← hall _ hascii, Char.ofNat_toNat]
  exact h

/-- An escape of four digits is collected as its unit. -/
theorem run_unit {a b d e : Char} {w x y z : Nat} (ha : Numeral.hexDigit? a = some w)
    (hb : Numeral.hexDigit? b = some x) (hd : Numeral.hexDigit? d = some y)
    (he : Numeral.hexDigit? e = some z) (ts : List Token) (content : List Piece) :
    (⟨ts, .string content .none⟩ : Scan).run ['\\', 'u', a, b, d, e] =
      ⟨ts, .string (.unit (w * 4096 + x * 256 + y * 16 + z) :: content) .none⟩ := by
  obtain ⟨hascii, hw⟩ := hexDigit?_byte ha
  obtain ⟨hsecond, hx⟩ := hexDigit?_byte hb
  obtain ⟨hthird, hy⟩ := hexDigit?_byte hd
  obtain ⟨hfourth, hz⟩ := hexDigit?_byte he
  rw [Scan.run_cons, Scan.run_cons, Scan.run_cons, Scan.run_cons, Scan.run_cons,
    Scan.run_ascii hascii, Scan.run_ascii hsecond, Scan.run_ascii hthird, Scan.run_ascii hfourth]
  -- The first three digits are only collected, the fourth completes the unit.
  show Scan.stepString _ content (.hex [_, _, _]) _ = _
  rw [Scan.stepString]
  simp only [List.length_cons, List.length_nil, List.cons_append, List.nil_append, Scan.unit?, hw,
    hx, hy, hz]
  rfl

/-- What stands between quotation marks is read as its pieces. -/
theorem run_stringText (h : StringText cs ps) (ts : List Token) (content : List Piece) :
    (⟨ts, .string content .none⟩ : Scan).run cs = ⟨ts, .string (ps.reverse ++ content) .none⟩ := by
  induction h generalizing content with
  | nil => rfl
  | @char c cs ps hcontrol hquote hbackslash h ih =>
    rw [Scan.run_cons, run_plain hcontrol hquote hbackslash, ih, List.reverse_append,
      List.append_assoc]
  | @escape c b cs ps hescape h ih =>
    have happend := Scan.run_append ⟨ts, .string content .none⟩ ['\\', c] cs
    rw [run_escape hescape, ih] at happend
    rw [List.reverse_cons, List.append_assoc]
    exact happend
  | @unit a b c d w x y z cs ps ha hb hc hd h ih =>
    have happend := Scan.run_append ⟨ts, .string content .none⟩ ['\\', 'u', a, b, c, d] cs
    rw [run_unit ha hb hc hd, ih] at happend
    rw [List.reverse_cons, List.append_assoc]
    exact happend

/-! ### Numbers

The places of a number differ in what may follow, so every part of a number is shown to lead
from some places to others. The lemmas on digits have the places as a parameter, since digits
are taken in three of them. -/

/-- Digits are taken one by one, when the machine takes any one of them as it should. -/
theorem run_digitChars {state : List Nat → Scan}
    (hstep : ∀ d < 10, ∀ held, (state held).run [Nat.digitChar d] = state (d :: held))
    {ns : List Nat}
    (hns : ∀ d ∈ ns, d < 10) (held : List Nat) :
    (state held).run (digitChars ns) = state (ns.reverse ++ held) := by
  induction ns generalizing held with
  | nil => rfl
  | cons d ns ih =>
    obtain ⟨hd, hrest⟩ := List.forall_mem_cons.mp hns
    rw [digitChars, List.map_cons, Scan.run_cons, hstep d hd, ← digitChars, ih hrest,
      List.reverse_cons, List.append_assoc]
    rfl

/-- Some digits, when the machine takes the first of them and any other as it should. -/
theorem run_areDigits {start : Scan} {state : List Nat → Scan}
    (hfirst : ∀ d < 10, start.run [Nat.digitChar d] = state [d])
    (hstep : ∀ d < 10, ∀ held, (state held).run [Nat.digitChar d] = state (d :: held))
    {ns : List Nat}
    (hns : AreDigits ns) : start.run (digitChars ns) = state ns.reverse := by
  obtain ⟨hne, hlt⟩ := hns
  obtain ⟨d, ns, rfl⟩ := List.exists_cons_of_ne_nil hne
  obtain ⟨hd, hrest⟩ := List.forall_mem_cons.mp hlt
  rw [digitChars, List.map_cons, Scan.run_cons, hfirst d hd, ← digitChars,
    run_digitChars hstep hrest, List.reverse_cons]

/-- The digits in front of the point, when the machine takes the first of them as it should. -/
theorem run_isWhole {start : Scan} {negative : Bool} {whole : List Nat}
    (hzero : start.run ['0'] = ⟨ts, .number .zero ⟨negative, [0], none, none⟩⟩)
    (hfirst : ∀ d < 10, d ≠ 0 →
      start.run [Nat.digitChar d] = ⟨ts, .number .whole ⟨negative, [d], none, none⟩⟩)
    (h : IsWhole whole) :
    ∃ place, (place = .zero ∨ place = .whole) ∧
      start.run (digitChars whole) = ⟨ts, .number place ⟨negative, whole.reverse, none, none⟩⟩ := by
  cases h with
  | zero => exact ⟨.zero, .inl rfl, hzero⟩
  | @digits d ns hd hlt hns =>
    -- The place of the digits does not change, and they are collected one by one.
    let state (held : List Nat) : Scan := ⟨ts, .number .whole ⟨negative, held, none, none⟩⟩
    have hstep : ∀ d < 10, ∀ held, (state held).run [Nat.digitChar d] = state (d :: held) := by
      intro d hd held
      interval_cases d <;> rfl
    refine ⟨.whole, .inr rfl, ?_⟩
    rw [digitChars, List.map_cons, Scan.run_cons, hfirst d hlt hd, ← digitChars, List.reverse_cons]
    exact run_digitChars hstep hns [d]

/-- A fraction leads from the digits in front of the point to those behind it, if it is there. -/
theorem run_fractionText {fraction : Option (List Nat)} (h : FractionText cs fraction)
    {place : NumberPlace} (hplace : place = .zero ∨ place = .whole) (ts : List Token)
    (negative : Bool) (whole : List Nat) :
    ∃ place', (place' = .zero ∨ place' = .whole ∨ place' = .fraction) ∧
      (⟨ts, .number place ⟨negative, whole, none, none⟩⟩ : Scan).run cs =
        ⟨ts, .number place' ⟨negative, whole, fraction.map List.reverse, none⟩⟩ := by
  cases h with
  | absent => exact ⟨place, by tauto, rfl⟩
  | @present ns h =>
    let state (held : List Nat) : Scan := ⟨ts, .number .fraction ⟨negative, whole, some held, none⟩⟩
    -- Behind the point one digit is needed, any others are collected.
    have hpoint : (⟨ts, .number place ⟨negative, whole, none, none⟩⟩ : Scan).run ['.'] =
        ⟨ts, .number .point ⟨negative, whole, none, none⟩⟩ := by
      rcases hplace with rfl | rfl <;> rfl
    have hfirst : ∀ d < 10, (⟨ts, .number .point ⟨negative, whole, none, none⟩⟩ : Scan).run
        [Nat.digitChar d] = state [d] := by
      intro d hd
      interval_cases d <;> rfl
    have hstep : ∀ d < 10, ∀ held, (state held).run [Nat.digitChar d] = state (d :: held) := by
      intro d hd held
      interval_cases d <;> rfl
    refine ⟨.fraction, .inr (.inr rfl), ?_⟩
    rw [Scan.run_cons, hpoint]
    exact run_areDigits hfirst hstep h

/-- An exponent leads to its digits, if it is there, with any sign or none. -/
theorem run_exponentText {exponent : Option (Bool × List Nat)} (h : ExponentText cs exponent)
    {place : NumberPlace} (hplace : place = .zero ∨ place = .whole ∨ place = .fraction)
    (ts : List Token) (negative : Bool) (whole : List Nat) (fraction : Option (List Nat)) :
    ∃ place', (place' = .zero ∨ place' = .whole ∨ place' = .fraction ∨ place' = .exponentDigits) ∧
      (⟨ts, .number place ⟨negative, whole, fraction, none⟩⟩ : Scan).run cs =
        ⟨ts, .number place' ⟨negative, whole, fraction,
          exponent.map fun e => (e.1, e.2.reverse)⟩⟩ := by
  let state (minus : Bool) (held : List Nat) : Scan :=
    ⟨ts, .number .exponentDigits ⟨negative, whole, fraction, some (minus, held)⟩⟩
  let sign (minus : Bool) : Scan :=
    ⟨ts, .number .exponentSign ⟨negative, whole, fraction, some (minus, [])⟩⟩
  -- The machine takes the letter, perhaps a sign, and then digits. Each kind of step is the
  -- same for all ten digits.
  have hletter : ∀ e, e = 'e' ∨ e = 'E' →
      (⟨ts, .number place ⟨negative, whole, fraction, none⟩⟩ : Scan).run [e] =
        ⟨ts, .number .exponent ⟨negative, whole, fraction, none⟩⟩ := by
    rintro e (rfl | rfl) <;> rcases hplace with rfl | rfl | rfl <;> rfl
  have hfirst : ∀ d < 10, (⟨ts, .number .exponent ⟨negative, whole, fraction, none⟩⟩ : Scan).run
      [Nat.digitChar d] = state false [d] := by
    intro d hd
    interval_cases d <;> rfl
  have hsigned : ∀ minus, ∀ d < 10, (sign minus).run [Nat.digitChar d] = state minus [d] := by
    intro minus d hd
    interval_cases d <;> rfl
  have hstep : ∀ minus, ∀ d < 10, ∀ held,
      (state minus held).run [Nat.digitChar d] = state minus (d :: held) := by
    intro minus d hd held
    interval_cases d <;> rfl
  cases h with
  | absent => exact ⟨place, by tauto, rfl⟩
  | plain he hns =>
    refine ⟨.exponentDigits, by simp, ?_⟩
    rw [Scan.run_cons, hletter _ he]
    exact run_areDigits hfirst (hstep false) hns
  | plus he hns =>
    refine ⟨.exponentDigits, by simp, ?_⟩
    rw [Scan.run_cons, hletter _ he, Scan.run_cons]
    exact run_areDigits (hsigned false) (hstep false) hns
  | minus he hns =>
    refine ⟨.exponentDigits, by simp, ?_⟩
    rw [Scan.run_cons, hletter _ he, Scan.run_cons]
    exact run_areDigits (hsigned true) (hstep true) hns

/-! ### Pieces of text and their tokens

`Lexes` says that a piece of text is read as certain tokens, whatever comes before it and behind it.
The pieces of a document are put together by this, without another look at the machine. -/

/-- A byte that is no part of the number in front of it. -/
def EndsNumber (b : UInt8) : Prop := Scan.digit? b = none ∧ b ≠ 0x2E ∧ b ≠ 0x65 ∧ b ≠ 0x45

/-- The machine holds the tokens as soon as a byte that ends a number or the
end of the text comes. -/
structure Scan.Has (s : Scan) (ts : List Token) : Prop where
  step : ∀ b, EndsNumber b → s.step b = (⟨ts, .between⟩ : Scan).step b
  finish : s.finish = ts

def Lexes (cs : List Char) (ts : List Token) : Prop :=
  ∀ done, ((⟨done, .between⟩ : Scan).run cs).Has (ts.reverse ++ done)

/-- The characters that are tokens of their own. -/
def marks : List (Char × Token) :=
  [('[', .openArray), (']', .closeArray), ('\x7b', .openObject), ('\x7d', .closeObject),
    (',', .comma), (':', .colon)]

/-- Between tokens a mark is a token. -/
theorem run_mark {t : Token} (h : (c, t) ∈ marks) (done : List Token) :
    (⟨done, .between⟩ : Scan).run [c] = ⟨t :: done, .between⟩ := by
  simp only [marks, List.mem_cons, List.not_mem_nil, Prod.mk.injEq, or_false] at h
  rcases h with ⟨rfl, rfl⟩ | ⟨rfl, rfl⟩ | ⟨rfl, rfl⟩ | ⟨rfl, rfl⟩ | ⟨rfl, rfl⟩ | ⟨rfl, rfl⟩ <;> rfl

theorem run_blank (h : IsBlank c) (done : List Token) :
    (⟨done, .between⟩ : Scan).run [c] = ⟨done, .between⟩ := by
  rcases h with rfl | rfl | rfl | rfl <;> rfl

theorem endsNumber_of_mark {t : Token} (h : (c, t) ∈ marks) :
    c.toNat < 0x80 ∧ EndsNumber (UInt8.ofNat c.toNat) := by
  have hall : ∀ e ∈ marks, e.1.toNat < 0x80 ∧ Scan.digit? (UInt8.ofNat e.1.toNat) = none ∧
      UInt8.ofNat e.1.toNat ≠ 0x2E ∧ UInt8.ofNat e.1.toNat ≠ 0x65 ∧
        UInt8.ofNat e.1.toNat ≠ 0x45 := by
    decide
  exact hall _ h

theorem endsNumber_of_blank (h : IsBlank c) :
    c.toNat < 0x80 ∧ EndsNumber (UInt8.ofNat c.toNat) := by
  unfold EndsNumber
  rcases h with rfl | rfl | rfl | rfl <;> decide

namespace Lexes

/-- A piece that leaves the machine between two tokens is read as its tokens. -/
theorem of_run (h : ∀ done, (⟨done, .between⟩ : Scan).run cs = ⟨ts.reverse ++ done, .between⟩) :
    Lexes cs ts := by
  intro done
  rw [h]
  exact ⟨fun _ _ => rfl, rfl⟩

theorem nil : Lexes [] [] := of_run fun _ => rfl

/-- What follows a byte that ends a number is read from there on. -/
theorem run_append_cons (h : Lexes cs ts) (hc : c.toNat < 0x80 ∧ EndsNumber (UInt8.ofNat c.toNat))
    (done : List Token) : (⟨done, .between⟩ : Scan).run (cs ++ c :: ds) =
      ((⟨ts.reverse ++ done, .between⟩ : Scan).run [c]).run ds := by
  obtain ⟨hascii, hends⟩ := hc
  rw [Scan.run_append, Scan.run_cons, Scan.run_ascii hascii, Scan.run_ascii hascii,
    (h done).step _ hends]

/-- Two pieces with a mark between them. -/
theorem mark {t : Token} (h : Lexes cs as) (hc : (c, t) ∈ marks) (h' : Lexes ds bs) :
    Lexes (cs ++ c :: ds) (as ++ t :: bs) := by
  intro done
  rw [h.run_append_cons (endsNumber_of_mark hc), run_mark hc]
  have hds := h' (t :: (as.reverse ++ done))
  simpa using hds

theorem blankBefore (hc : IsBlank c) (h : Lexes cs ts) : Lexes (c :: cs) ts := by
  intro done
  rw [Scan.run_cons, run_blank hc]
  exact h done

theorem blankAfter (hc : IsBlank c) (h : Lexes cs ts) : Lexes (cs ++ [c]) ts := by
  apply of_run
  intro done
  rw [h.run_append_cons (endsNumber_of_blank hc), run_blank hc]
  rfl

theorem blanks (h : ∀ c ∈ cs, IsBlank c) : Lexes cs [] := by
  induction cs with
  | nil => exact .nil
  | cons c cs ih =>
    obtain ⟨hc, hrest⟩ := List.forall_mem_cons.mp h
    exact (ih hrest).blankBefore hc

/-- What stands between two marks. -/
theorem between {o c : Char} {t u : Token} (ho : (o, t) ∈ marks) (h : Lexes cs ts)
    (hc : (c, u) ∈ marks) : Lexes (o :: (cs ++ [c])) (t :: (ts ++ [u])) :=
  nil.mark ho (h.mark hc nil)

/-- A string between quotation marks is one token. -/
theorem quoted (h : QuotedText cs ps) : Lexes cs [.string ps] := by
  induction h with
  | @quoted cs ps h =>
    apply of_run
    intro done
    rw [Scan.run_cons]
    show (⟨done, .string [] .none⟩ : Scan).run _ = _
    rw [Scan.run_append, run_stringText h, List.append_nil]
    -- The quotation mark at the end puts the pieces into their order.
    show (⟨done, .between⟩ : Scan).emit (.string (List.reverse (List.reverse _))) = _
    rw [List.reverse_reverse]
    rfl
  | blankBefore hc h ih => exact ih.blankBefore hc
  | blankAfter hc h ih => exact ih.blankAfter hc

/-- A number is one token. -/
theorem number {n : Number} (h : NumberText cs n) : Lexes cs [.number n] := by
  intro done
  obtain @⟨negative, whole, fs, es, fraction, exponent, hwhole, hfraction, hexponent⟩ := h
  have hdigits : ∃ place, (place = .zero ∨ place = .whole) ∧
      ((⟨done, .between⟩ : Scan).run (signText negative)).run (digitChars whole) =
        ⟨done, .number place ⟨negative, whole.reverse, none, none⟩⟩ := by
    -- A sign in front changes where the machine is before the first digit, and nothing else.
    cases negative with
    | false =>
      refine run_isWhole rfl ?_ hwhole
      intro d hd hne
      interval_cases d <;> first | rfl | exact absurd rfl hne
    | true =>
      refine run_isWhole rfl ?_ hwhole
      intro d hd hne
      interval_cases d <;> first | rfl | exact absurd rfl hne
  obtain ⟨place, hplace, hdigits⟩ := hdigits
  obtain ⟨place', hplace', hrun'⟩ :=
    run_fractionText hfraction hplace done negative whole.reverse
  obtain ⟨place'', hplace'', hrun''⟩ :=
    run_exponentText hexponent hplace' done negative whole.reverse (fraction.map List.reverse)
  -- Only now the digits are put into their order.
  have hordered : Scan.ordered ⟨negative, whole.reverse, fraction.map List.reverse,
      exponent.map fun e => (e.1, e.2.reverse)⟩ = ⟨negative, whole, fraction, exponent⟩ := by
    cases fraction <;> cases exponent <;> simp [Scan.ordered]
  rw [Scan.run_append, Scan.run_append, Scan.run_append, hdigits, hrun', hrun'',
    List.reverse_singleton, List.singleton_append, ← hordered]
  -- At each place where a number may end, a byte that ends it begins the next token.
  constructor
  · rintro b ⟨hdigit, hpoint, hsmall, hlarge⟩
    show Scan.stepNumber _ place'' _ b = _
    rcases hplace'' with rfl | rfl | rfl | rfl <;>
      simp only [Scan.stepNumber, hdigit, hpoint, hsmall, hlarge, if_false, decide_false,
        Bool.or_self] <;>
      rfl
  · rcases hplace'' with rfl | rfl | rfl | rfl <;> rfl

end Lexes

theorem Lexes.tokens (h : Lexes cs ts) : tokens (Utf8.encodeChars cs) = ts := by
  have hfinish := (h []).finish
  show (Scan.run ⟨[], .between⟩ cs).finish.reverse = _
  rw [hfinish, List.append_nil, List.reverse_reverse]

end NodeAdmission.Json
