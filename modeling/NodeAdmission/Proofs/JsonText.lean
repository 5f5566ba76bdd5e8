import NodeAdmission.Json.Decoder
import NodeAdmission.Text.Numeral

/-!
# JSON texts

What a JSON text is, without regard to how it is read. `Spells cs v` says that the characters `cs`
are a spelling of the value `v`: with any blanks between its tokens, any escapes in its strings,
numbers with fractions and exponents, and arrays and objects of any depth. A value has many
spellings, while the reader finds the one value of a spelling (`read_of_spells`).

* `StringText`, `NumberText` — the tokens, character by character.
* `Spells`, `SpellsItems`, `SpellsMembers` — the values, together by mutual recursion.
  Blanks may be put around any value and around any key, which says where they may be
  without naming the places one by one.
* `Spells.begins` — a spelling begins with one of a few characters. The reader decides by this
  character which kind of value there is.
* `Spells.whole` — nothing in a value that is spelled is broken, however deep.

The value is a `Parsed` one, which holds a string by its pieces. A surrogate may be spelled that is
no half of a pair, although no text has it, and the reader refuses it only when a text is asked for.
-/

namespace NodeAdmission.Json

def IsBlank (c : Char) : Prop := c = ' ' ∨ c = '\t' ∨ c = '\n' ∨ c = '\r'

/-! ### Strings -/

/-- The escapes of one letter, with the byte that each stands for. -/
def escapes : List (Char × UInt8) :=
  [('"', 0x22), ('\\', 0x5C), ('/', 0x2F), ('b', 0x08), ('f', 0x0C), ('n', 0x0A), ('r', 0x0D),
    ('t', 0x09)]

/-- What stands between the quotation marks of a string. -/
inductive StringText : List Char → List Piece → Prop
  | nil : StringText [] []
  | char {c : Char} {cs : List Char} {ps : List Piece} : 0x20 ≤ c.toNat → c ≠ '"' → c ≠ '\\' →
      StringText cs ps → StringText (c :: cs) ((Utf8.encodeChar c).map .byte ++ ps)
  | escape {c : Char} {b : UInt8} {cs : List Char} {ps : List Piece} : (c, b) ∈ escapes →
      StringText cs ps → StringText ('\\' :: c :: cs) (.byte b :: ps)
  | unit {a b c d : Char} {w x y z : Nat} {cs : List Char} {ps : List Piece} :
      Numeral.hexDigit? a = some w → Numeral.hexDigit? b = some x → Numeral.hexDigit? c = some y →
      Numeral.hexDigit? d = some z → StringText cs ps →
      StringText ('\\' :: 'u' :: a :: b :: c :: d :: cs)
        (.unit (w * 4096 + x * 256 + y * 16 + z) :: ps)

inductive QuotedText : List Char → List Piece → Prop
  | quoted {cs : List Char} {ps : List Piece} :
      StringText cs ps → QuotedText ('"' :: (cs ++ ['"'])) ps
  | blankBefore {c : Char} {cs : List Char} {ps : List Piece} : IsBlank c → QuotedText cs ps →
      QuotedText (c :: cs) ps
  | blankAfter {c : Char} {cs : List Char} {ps : List Piece} : IsBlank c → QuotedText cs ps →
      QuotedText (cs ++ [c]) ps

/-! ### Numbers -/

def digitChars (ds : List Nat) : List Char := ds.map Nat.digitChar

/-- The digits in front of the point: a zero alone, or some that do not begin with one. -/
inductive IsWhole : List Nat → Prop
  | zero : IsWhole [0]
  | digits {d : Nat} {ds : List Nat} : d ≠ 0 → d < 10 → (∀ e ∈ ds, e < 10) → IsWhole (d :: ds)

def AreDigits (ds : List Nat) : Prop := ds ≠ [] ∧ ∀ d ∈ ds, d < 10

inductive FractionText : List Char → Option (List Nat) → Prop
  | absent : FractionText [] none
  | present {ds : List Nat} : AreDigits ds → FractionText ('.' :: digitChars ds) (some ds)

inductive ExponentText : List Char → Option (Bool × List Nat) → Prop
  | absent : ExponentText [] none
  | plain {e : Char} {ds : List Nat} : e = 'e' ∨ e = 'E' → AreDigits ds →
      ExponentText (e :: digitChars ds) (some (false, ds))
  | plus {e : Char} {ds : List Nat} : e = 'e' ∨ e = 'E' → AreDigits ds →
      ExponentText (e :: '+' :: digitChars ds) (some (false, ds))
  | minus {e : Char} {ds : List Nat} : e = 'e' ∨ e = 'E' → AreDigits ds →
      ExponentText (e :: '-' :: digitChars ds) (some (true, ds))

def signText (negative : Bool) : List Char := if negative then ['-'] else []

inductive NumberText : List Char → Number → Prop
  | parts {negative : Bool} {whole : List Nat} {fs es : List Char} {fraction : Option (List Nat)}
      {exponent : Option (Bool × List Nat)} : IsWhole whole → FractionText fs fraction →
      ExponentText es exponent →
      NumberText (signText negative ++ (digitChars whole ++ (fs ++ es)))
        ⟨negative, whole, fraction, exponent⟩

/-! ### Values -/

mutual

/-- A value with blanks around it. -/
inductive Spells : List Char → Parsed → Prop
  | null : Spells ['n', 'u', 'l', 'l'] .null
  | true : Spells ['t', 'r', 'u', 'e'] (.bool true)
  | false : Spells ['f', 'a', 'l', 's', 'e'] (.bool false)
  | number {cs : List Char} {n : Number} : NumberText cs n → Spells cs (.number n)
  | string {cs : List Char} {ps : List Piece} : QuotedText cs ps → Spells cs (.string ps)
  | emptyArray {cs : List Char} :
      (∀ c ∈ cs, IsBlank c) → Spells ('[' :: (cs ++ [']'])) (.array [] .closed)
  | array {cs : List Char} {vs : List Parsed} : SpellsItems cs vs →
      Spells ('[' :: (cs ++ [']'])) (.array vs .closed)
  | emptyObject {cs : List Char} : (∀ c ∈ cs, IsBlank c) →
      Spells ('\x7b' :: (cs ++ ['\x7d'])) (.object [] .closed)
  | object {cs : List Char} {ms : List (List Piece × Parsed)} : SpellsMembers cs ms →
      Spells ('\x7b' :: (cs ++ ['\x7d'])) (.object ms .closed)
  | blankBefore {c : Char} {cs : List Char} {v : Parsed} :
      IsBlank c → Spells cs v → Spells (c :: cs) v
  | blankAfter {c : Char} {cs : List Char} {v : Parsed} :
      IsBlank c → Spells cs v → Spells (cs ++ [c]) v

/-- One item or more, with commas between them. -/
inductive SpellsItems : List Char → List Parsed → Prop
  | one {cs : List Char} {v : Parsed} : Spells cs v → SpellsItems cs [v]
  | more {cs ds : List Char} {v : Parsed} {vs : List Parsed} : Spells cs v → SpellsItems ds vs →
      SpellsItems (cs ++ ',' :: ds) (v :: vs)

inductive SpellsMembers : List Char → List (List Piece × Parsed) → Prop
  | one {ks cs : List Char} {key : List Piece} {v : Parsed} : QuotedText ks key → Spells cs v →
      SpellsMembers (ks ++ ':' :: cs) [(key, v)]
  | more {ks cs ds : List Char} {key : List Piece} {v : Parsed} {ms : List (List Piece × Parsed)} :
      QuotedText ks key → Spells cs v → SpellsMembers ds ms →
      SpellsMembers (ks ++ ':' :: (cs ++ ',' :: ds)) ((key, v) :: ms)

end

variable {cs ds : List Char} {ps qs : List Piece} {v : Parsed} {ms : List (List Piece × Parsed)}

theorem StringText.append (h : StringText cs ps) (h' : StringText ds qs) :
    StringText (cs ++ ds) (ps ++ qs) := by
  induction h with
  | nil => exact h'
  | char hcontrol hquote hbackslash h ih =>
    rw [List.append_assoc]
    exact .char hcontrol hquote hbackslash ih
  | escape hescape h ih => exact .escape hescape ih
  | unit ha hb hc hd h ih => exact .unit ha hb hc hd ih

/-! ### Blanks around a text -/

section

variable {bs : List Char} {vs : List Parsed}

/-- Any number of blanks in front of a key. -/
theorem QuotedText.blanksBefore (hbs : ∀ c ∈ bs, IsBlank c) (h : QuotedText cs ps) :
    QuotedText (bs ++ cs) ps := by
  induction bs with
  | nil => exact h
  | cons b bs ih =>
    obtain ⟨hb, hbs⟩ := List.forall_mem_cons.mp hbs
    exact .blankBefore hb (ih hbs)

theorem Spells.blanksBefore (hbs : ∀ c ∈ bs, IsBlank c) (h : Spells cs v) :
    Spells (bs ++ cs) v := by
  induction bs with
  | nil => exact h
  | cons b bs ih =>
    obtain ⟨hb, hbs⟩ := List.forall_mem_cons.mp hbs
    exact .blankBefore hb (ih hbs)

theorem Spells.blanksAfter (hbs : ∀ c ∈ bs, IsBlank c) (h : Spells cs v) : Spells (cs ++ bs) v := by
  induction bs generalizing cs with
  | nil =>
    rw [List.append_nil]
    exact h
  | cons b bs ih =>
    obtain ⟨hb, hbs⟩ := List.forall_mem_cons.mp hbs
    -- The blanks are moved one after another to the end of the text.
    rw [List.append_cons]
    exact ih hbs (.blankAfter hb h)

theorem SpellsItems.blanksBefore (hbs : ∀ c ∈ bs, IsBlank c) (h : SpellsItems cs vs) :
    SpellsItems (bs ++ cs) vs := by
  cases h with
  | one h => exact .one (h.blanksBefore hbs)
  | more h hrest =>
    rw [← List.append_assoc]
    exact .more (h.blanksBefore hbs) hrest

theorem SpellsItems.blanksAfter (hbs : ∀ c ∈ bs, IsBlank c) :
    {cs : List Char} → {vs : List Parsed} → SpellsItems cs vs → SpellsItems (cs ++ bs) vs
  | _, _, .one h => .one (h.blanksAfter hbs)
  | _, _, .more h hrest => by
    rw [List.append_assoc, List.cons_append]
    exact .more h (hrest.blanksAfter hbs)

theorem SpellsMembers.blanksBefore (hbs : ∀ c ∈ bs, IsBlank c) (h : SpellsMembers cs ms) :
    SpellsMembers (bs ++ cs) ms := by
  cases h with
  | one hkey h =>
    rw [← List.append_assoc]
    exact .one (hkey.blanksBefore hbs) h
  | more hkey h hrest =>
    rw [← List.append_assoc]
    exact .more (hkey.blanksBefore hbs) h hrest

theorem SpellsMembers.blanksAfter (hbs : ∀ c ∈ bs, IsBlank c) :
    {cs : List Char} → {ms : List (List Piece × Parsed)} → SpellsMembers cs ms →
      SpellsMembers (cs ++ bs) ms
  | _, _, .one hkey h => by
    rw [List.append_assoc, List.cons_append]
    exact .one hkey (h.blanksAfter hbs)
  | _, _, .more hkey h hrest => by
    rw [List.append_assoc, List.cons_append, List.append_assoc, List.cons_append]
    exact .more hkey h (hrest.blanksAfter hbs)

end

/-! ### How a text begins -/

/-- The characters that a text may begin with: blanks, and those that begin a value. -/
def beginnings : List Char :=
  [' ', '\t', '\n', '\r', 'n', 't', 'f', '"', '[', '\x7b', '-', '0', '1', '2', '3', '4', '5', '6',
    '7', '8', '9']

/-- The text begins with a character that it may begin with. -/
def Begins (cs : List Char) : Prop := ∃ c ∈ beginnings, ∃ rest, cs = c :: rest

theorem Begins.append (h : Begins cs) (ds : List Char) : Begins (cs ++ ds) := by
  obtain ⟨c, hc, rest, rfl⟩ := h
  exact ⟨c, hc, rest ++ ds, rfl⟩

theorem IsBlank.begins {c : Char} (h : IsBlank c) (cs : List Char) : Begins (c :: cs) := by
  refine ⟨c, ?_, cs, rfl⟩
  rcases h with rfl | rfl | rfl | rfl <;> decide

theorem IsWhole.begins {digits : List Nat} (h : IsWhole digits) : Begins (digitChars digits) := by
  have hdigit : ∀ d < 10, Nat.digitChar d ∈ beginnings := by decide
  cases h with
  | zero => exact ⟨_, hdigit 0 (by decide), [], rfl⟩
  | digits _ hlt _ => exact ⟨_, hdigit _ hlt, _, rfl⟩

theorem NumberText.begins {n : Number} (h : NumberText cs n) : Begins cs := by
  cases h with
  | @parts negative _ _ _ _ _ hwhole _ _ =>
    cases negative with
    | true => exact ⟨'-', by decide, _, rfl⟩
    | false => exact hwhole.begins.append _

theorem QuotedText.begins (h : QuotedText cs ps) : Begins cs := by
  induction h with
  | quoted _ => exact ⟨'"', by decide, _, rfl⟩
  | blankBefore hc _ _ => exact hc.begins _
  | blankAfter _ _ ih => exact ih.append _

/-- A spelling begins with a blank or with a character that tells the kind of the value. -/
theorem Spells.begins : {cs : List Char} → {v : Parsed} → Spells cs v → Begins cs
  | _, _, .null => ⟨'n', by decide, _, rfl⟩
  | _, _, .true => ⟨'t', by decide, _, rfl⟩
  | _, _, .false => ⟨'f', by decide, _, rfl⟩
  | _, _, .number h => h.begins
  | _, _, .string h => h.begins
  | _, _, .emptyArray _ => ⟨'[', by decide, _, rfl⟩
  | _, _, .array _ => ⟨'[', by decide, _, rfl⟩
  | _, _, .emptyObject _ => ⟨'\x7b', by decide, _, rfl⟩
  | _, _, .object _ => ⟨'\x7b', by decide, _, rfl⟩
  | _, _, .blankBefore hc _ => hc.begins _
  | _, _, .blankAfter _ h => h.begins.append _

/-- Nothing is spelled by a text that begins with another character. -/
theorem not_spells_of_not_mem {c : Char} (hc : c ∉ beginnings) : ¬ Spells (c :: cs) v := by
  intro h
  obtain ⟨d, hd, rest, heq⟩ := h.begins
  obtain ⟨rfl, -⟩ := List.cons.inj heq
  exact hc hd

/-! ### Values without damage -/

/-- Nothing is broken in the value, however deep. -/
inductive Parsed.Whole : Parsed → Prop
  | null : Whole .null
  | bool {b : Bool} : Whole (.bool b)
  | number {n : Number} : Whole (.number n)
  | string {ps : List Piece} : Whole (.string ps)
  | array {vs : List Parsed} : (∀ v ∈ vs, v.Whole) → Whole (.array vs .closed)
  | object {ms : List (List Piece × Parsed)} : (∀ m ∈ ms, m.2.Whole) → Whole (.object ms .closed)

mutual

/-- A value that is spelled is whole. -/
theorem Spells.whole : {cs : List Char} → {v : Parsed} → Spells cs v → v.Whole
  | _, _, .null => .null
  | _, _, .true => .bool
  | _, _, .false => .bool
  | _, _, .number _ => .number
  | _, _, .string _ => .string
  | _, _, .emptyArray _ => .array (List.forall_mem_nil _)
  | _, _, .array h => .array h.whole
  | _, _, .emptyObject _ => .object (List.forall_mem_nil _)
  | _, _, .object h => .object h.whole
  | _, _, .blankBefore _ h => h.whole
  | _, _, .blankAfter _ h => h.whole

theorem SpellsItems.whole : {cs : List Char} → {vs : List Parsed} → SpellsItems cs vs →
    ∀ v ∈ vs, v.Whole
  | _, _, .one h => List.forall_mem_singleton.mpr h.whole
  | _, _, .more h hrest => List.forall_mem_cons.mpr ⟨h.whole, hrest.whole⟩

theorem SpellsMembers.whole : {cs : List Char} → {ms : List (List Piece × Parsed)} →
    SpellsMembers cs ms → ∀ m ∈ ms, m.2.Whole
  | _, _, .one _ h => List.forall_mem_singleton.mpr h.whole
  | _, _, .more _ h hrest => List.forall_mem_cons.mpr ⟨h.whole, hrest.whole⟩

end

namespace Parsed.Whole

theorem items (h : (Parsed.array vs .closed).Whole) : ∀ v ∈ vs, v.Whole := by
  cases h with
  | array h => exact h

theorem members (h : (Parsed.object ms .closed).Whole) : ∀ m ∈ ms, m.2.Whole := by
  cases h with
  | object h => exact h

/-- A value without damage can be skipped. -/
theorem skipError? (h : v.Whole) : v.skipError? = none := by
  cases h <;> rfl

end Parsed.Whole

end NodeAdmission.Json
