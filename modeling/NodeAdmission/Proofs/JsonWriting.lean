import NodeAdmission.Json.Basic
import NodeAdmission.Proofs.JsonDocument
import NodeAdmission.Proofs.JsonMeaning

/-!
# What is written is read back

The text of a written value spells this value, whether it is written without blanks or over several
lines. So its document is the value itself, closed and with nothing behind it.

* `quotedText_quote`, `numberText_whole` — strings and numbers. A written character is an escape of
  its own, the digits of its number, or itself; a written number has neither fraction nor exponent.
* `spells_compactChars`, `spells_prettyChars` — the two ways to write a value, each by recursion
  over the value with its items and its members.
* `read_bytes` — the document of what is written.
* `means_pieces`, `digitsValue_digitsOf` — the strings and the numbers of this
  document mean what was written.

What is read of a string is not the string but its `pieces`: a control character is written by its
number and read as a unit, although its byte would mean the same.
-/

namespace NodeAdmission.Json

variable {c : Char} {cs : List Char} {ps : List Piece} {n : Nat}

/-! ### Strings -/

/-- The character is written with the hexadecimal digits of its number. -/
def isNumbered (c : Char) : Bool :=
  c.toNat < 0x20 && !([0x08, 0x09, 0x0A, 0x0C, 0x0D].contains c.toNat)

/-- What is read of a written character. -/
def charPieces (c : Char) : List Piece :=
  if isNumbered c then [.unit c.toNat] else (Utf8.encodeChar c).map .byte

def pieces (s : String) : List Piece := s.toList.flatMap charPieces

theorem stringText_escape {b : UInt8} (h : (c, b) ∈ escapes) : StringText ['\\', c] [.byte b] :=
  .escape h .nil

theorem stringText_numbered (hn : n < 0x20) :
    StringText ['\\', 'u', '0', '0', hexDigit (n / 16), hexDigit (n % 16)] [.unit n] := by
  have hdigit : ∀ d < 16, Numeral.hexDigit? (hexDigit d) = some d := by decide
  have hzero : Numeral.hexDigit? '0' = some 0 := rfl
  have hsum : 0 * 4096 + 0 * 256 + n / 16 * 16 + n % 16 = n := by omega
  have htext :=
    StringText.unit hzero hzero (hdigit (n / 16) (by omega)) (hdigit (n % 16) (by omega))
    .nil
  rwa [hsum] at htext

/-- However a character is written, it is read as its pieces. -/
theorem stringText_escapeChar (c : Char) : StringText (escapeChar c) (charPieces c) := by
  unfold escapeChar
  -- First the characters with an escape of their own.
  split
  · next h => subst h; exact stringText_escape (by simp [escapes])
  split
  · next h => subst h; exact stringText_escape (by simp [escapes])
  split
  · next h => rw [eq_ofNat h]; exact stringText_escape (by simp [escapes])
  split
  · next h => rw [eq_ofNat h]; exact stringText_escape (by simp [escapes])
  split
  · next h => subst h; exact stringText_escape (by simp [escapes])
  split
  · next h => subst h; exact stringText_escape (by simp [escapes])
  split
  · next h => subst h; exact stringText_escape (by simp [escapes])
  -- Then those that are written with their number, and those that stand for themselves.
  split
  · next hquote hbackslash hback hfeed hline hreturn htab hcontrol =>
    have hnumbered : isNumbered c = true := by
      have hne : ∀ n, c ≠ Char.ofNat n → c.toNat ≠ n := fun n hc h => hc (eq_ofNat h)
      have hline := hne 0x0A hline
      have hreturn := hne 0x0D hreturn
      have htab := hne 0x09 htab
      simp [isNumbered, hcontrol, hback, hfeed, hline, hreturn, htab]
    rw [charPieces, if_pos hnumbered]
    exact stringText_numbered hcontrol
  · next hquote hbackslash hback hfeed hline hreturn htab hcontrol =>
    have hnumbered : isNumbered c = false := by simp [isNumbered, hcontrol]
    have htext := StringText.char (Nat.le_of_not_lt hcontrol) hquote hbackslash .nil
    rw [List.append_nil] at htext
    rw [charPieces, hnumbered]
    exact htext

theorem stringText_flatMap (cs : List Char) :
    StringText (cs.flatMap escapeChar) (cs.flatMap charPieces) := by
  induction cs with
  | nil => exact .nil
  | cons c cs ih =>
    rw [List.flatMap_cons, List.flatMap_cons]
    exact (stringText_escapeChar c).append ih

/-- A written string is a string between quotation marks. -/
theorem quotedText_quote (s : String) : QuotedText (quote s) (pieces s) :=
  .quoted (stringText_flatMap s.toList)

/-- What is read of a character is a unit that is no surrogate, or its bytes. -/
theorem charPieces_cases (c : Char) :
    charPieces c = [.unit c.toNat] ∧ c.toNat < 0x20 ∨
      charPieces c = (Utf8.encodeChar c).map .byte := by
  unfold charPieces
  split
  · next h =>
    refine .inl ⟨rfl, ?_⟩
    simp only [isNumbered, Bool.and_eq_true, decide_eq_true_eq] at h
    exact h.1
  · exact .inr rfl

/-- The pieces of a character mean this character. -/
theorem means_charPieces (h : Means ps cs) : Means (charPieces c ++ ps) (c :: cs) := by
  rcases charPieces_cases c with ⟨hunit, hlow⟩ | hbytes
  · rw [hunit]
    exact .unit (Nat.lt_trans hlow (by decide)) h
  · rw [hbytes]
    exact .bytes h

theorem means_pieces (s : String) : Means (pieces s) s.toList := by
  unfold pieces
  induction s.toList with
  | nil => exact .nil
  | cons c cs ih => exact means_charPieces ih

@[simp] theorem textOf_pieces (s : String) : textOf (pieces s) = .ok s := (means_pieces s).textOf

/-! ### Numbers -/

def digitsOf (n : Nat) : List Nat := (Nat.toDigits 10 n).map fun c => c.toNat - 48

/-- The number that is read of a whole number. -/
def numberOf (i : Int) : Number := ⟨i < 0, digitsOf i.natAbs, none, none⟩

theorem digitsOf_of_lt (h : n < 10) : digitsOf n = [n] := by
  have hall : ∀ n < 10, digitsOf n = [n] := by decide
  exact hall n h

/-- The last digit of a number and the digits in front of it. -/
theorem digitsOf_of_le (h : 10 ≤ n) : digitsOf n = digitsOf (n / 10) ++ [n % 10] := by
  have hall : ∀ n < 10, (Nat.digitChar n).toNat - 48 = n := by decide
  rw [digitsOf, Nat.toDigits_of_base_le (by decide) h, List.map_append, List.map_singleton,
    hall _ (Nat.mod_lt _ (by decide))]
  rfl

theorem digitChars_digitsOf (n : Nat) : digitChars (digitsOf n) = Nat.toDigits 10 n := by
  -- By the number of digits, the last of them split off.
  induction n using Nat.strongRecOn with
  | ind n ih =>
    by_cases hn : n < 10
    · rw [digitsOf_of_lt hn, Nat.toDigits_of_lt_base hn]
      rfl
    · have hn : 10 ≤ n := Nat.le_of_not_lt hn
      rw [digitsOf_of_le hn, Nat.toDigits_of_base_le (by decide) hn, ← ih (n / 10) (by omega),
        digitChars, List.map_append]
      rfl

theorem digitsValue_digitsOf (n : Nat) : digitsValue (digitsOf n) = n := by
  induction n using Nat.strongRecOn with
  | ind n ih =>
    by_cases hn : n < 10
    · rw [digitsOf_of_lt hn, digitsValue]
      simp
    · have hn : 10 ≤ n := Nat.le_of_not_lt hn
      have hhead := ih (n / 10) (by omega)
      rw [digitsValue] at hhead
      rw [digitsOf_of_le hn, digitsValue, List.foldl_append, hhead]
      exact Nat.div_add_mod' n 10

/-- Digits in front of the point may be followed by another, unless they are a zero. -/
theorem IsWhole.concat {ds : List Nat} {d : Nat} (h : IsWhole ds) (hzero : ds ≠ [0]) (hd : d < 10) :
    IsWhole (ds ++ [d]) := by
  cases h with
  | zero => exact absurd rfl hzero
  | digits hne hlt hrest =>
    refine .digits hne hlt ?_
    intro e he
    rcases List.mem_append.mp he with he | he
    · exact hrest e he
    · exact List.mem_singleton.mp he ▸ hd

/-- No number is written with a zero in front, but for zero itself. -/
theorem isWhole_digitsOf (n : Nat) : IsWhole (digitsOf n) := by
  induction n using Nat.strongRecOn with
  | ind n ih =>
    by_cases hn : n < 10
    · rw [digitsOf_of_lt hn]
      by_cases hzero : n = 0
      · exact hzero ▸ .zero
      · exact .digits hzero hn (List.forall_mem_nil _)
    · have hn : 10 ≤ n := Nat.le_of_not_lt hn
      -- What is left of a number of two digits is no zero.
      have hzero : digitsOf (n / 10) ≠ [0] := by
        intro h
        have hvalue := digitsValue_digitsOf (n / 10)
        rw [h] at hvalue
        have hvalue : 0 = n / 10 := hvalue
        omega
      rw [digitsOf_of_le hn]
      exact (ih (n / 10) (by omega)).concat hzero (Nat.mod_lt _ (by decide))

/-- A whole number is written as a number. -/
theorem numberText_whole (i : Int) : NumberText (Numeral.whole i).toList (numberOf i) := by
  have hdigits : (Numeral.digits i.natAbs).toList = digitChars (digitsOf i.natAbs) := by
    rw [digitChars_digitsOf]
    exact String.toList_ofList
  have htext : (Numeral.whole i).toList =
      signText (i < 0) ++ (digitChars (digitsOf i.natAbs) ++ ([] ++ [])) := by
    rw [List.append_nil, List.append_nil, ← hdigits]
    unfold Numeral.whole
    split
    · next h =>
      rw [String.toList_append, signText, if_pos (decide_eq_true h)]
      rfl
    · next h =>
      rw [signText, if_neg (by simpa using h)]
      rfl
  -- What is written is a whole number without a fraction and an exponent.
  rw [htext]
  exact .parts (isWhole_digitsOf _) .absent .absent

/-! ### Values -/

mutual

def parsed : Json → Parsed
  | .null => .null
  | .bool b => .bool b
  | .int i => .number (numberOf i)
  | .str s => .string (pieces s)
  | .arr items => .array (parsedItems items) .closed
  | .obj members => .object (parsedMembers members) .closed

def parsedItems : List Json → List Parsed
  | [] => []
  | j :: js => parsed j :: parsedItems js

def parsedMembers : List (String × Json) → List (List Piece × Parsed)
  | [] => []
  | (k, j) :: ms => (pieces k, parsed j) :: parsedMembers ms

end

theorem parsedMembers_eq_map (ms : List (String × Json)) :
    parsedMembers ms = ms.map fun m => (pieces m.1, parsed m.2) := by
  induction ms with
  | nil => rfl
  | cons m ms ih => rw [parsedMembers, ih, List.map_cons]

/-- The members of a written object have the names that were written. -/
theorem means_parsedMembers (ms : List (String × Json)) :
    List.Forall₂ (fun m name => Means m.1 name.toList) (parsedMembers ms) (ms.map Prod.fst) := by
  induction ms with
  | nil => exact .nil
  | cons m ms ih => exact .cons (means_pieces m.1) ih

theorem parsedMembers_append (ms ms' : List (String × Json)) :
    parsedMembers (ms ++ ms') = parsedMembers ms ++ parsedMembers ms' := by
  rw [parsedMembers_eq_map, parsedMembers_eq_map, parsedMembers_eq_map, List.map_append]

mutual

/-- The text of a written value spells this value. -/
theorem spells_compactChars : (j : Json) → Spells (compactChars j) (parsed j)
  | .null => .null
  | .bool true => .true
  | .bool false => .false
  | .int i => .number (numberText_whole i)
  | .str s => .string (quotedText_quote s)
  | .arr [] => .emptyArray (List.forall_mem_nil _)
  | .arr (j :: js) => .array (spells_compactItems (j :: js) (List.cons_ne_nil j js))
  | .obj [] => .emptyObject (List.forall_mem_nil _)
  | .obj (m :: ms) => .object (spells_compactMembers (m :: ms) (List.cons_ne_nil m ms))

theorem spells_compactItems : (js : List Json) → js ≠ [] →
    SpellsItems (joinChars [','] (compactItems js)) (parsedItems js)
  | [], h => absurd rfl h
  | [j], _ => .one (spells_compactChars j)
  | j :: k :: js, _ => by
    have hitems := SpellsItems.more (spells_compactChars j)
      (spells_compactItems (k :: js) (List.cons_ne_nil k js))
    rw [compactItems, compactItems, joinChars, List.append_assoc]
    exact hitems

theorem spells_compactMembers : (ms : List (String × Json)) → ms ≠ [] →
    SpellsMembers (joinChars [','] (compactMembers ms)) (parsedMembers ms)
  | [], h => absurd rfl h
  | [(key, j)], _ => .one (quotedText_quote key) (spells_compactChars j)
  | (key, j) :: m :: ms, _ => by
    have hmembers := SpellsMembers.more (quotedText_quote key) (spells_compactChars j)
      (spells_compactMembers (m :: ms) (List.cons_ne_nil m ms))
    rw [compactMembers, compactMembers, joinChars, List.append_assoc, List.append_assoc]
    exact hmembers

end

/-- A value that is written is read back, and nothing is left. -/
theorem read_bytes (j : Json) : Document.read j.bytes = ⟨parsed j, false⟩ :=
  read_of_spells (spells_compactChars j)

theorem encode_compact (j : Json) : Utf8.encode j.compact = j.bytes := by
  rw [compact, Utf8.encode, String.toList_ofList]
  rfl

/-! ### Several lines -/

/-- A new line and what it is indented by are blanks. -/
theorem isBlank_of_mem_newLine (depth : Nat) : ∀ c ∈ newLine depth, IsBlank c := by
  intro c hc
  rcases List.mem_cons.mp hc with rfl | hc
  · exact .inr (.inr (.inl rfl))
  · exact .inl (List.mem_replicate.mp hc).2

mutual

/-- The lines of a written value spell this value. -/
theorem spells_prettyChars (depth : Nat) : (j : Json) → Spells (prettyChars depth j) (parsed j)
  | .null => .null
  | .bool true => .true
  | .bool false => .false
  | .int i => .number (numberText_whole i)
  | .str s => .string (quotedText_quote s)
  | .arr [] => .emptyArray (List.forall_mem_nil _)
  | .arr (j :: js) => by
    have hitems := spells_prettyItems (depth + 1) (j :: js) (List.cons_ne_nil j js)
    exact .array ((hitems.blanksBefore (isBlank_of_mem_newLine _)).blanksAfter
      (isBlank_of_mem_newLine _))
  | .obj [] => .emptyObject (List.forall_mem_nil _)
  | .obj ((key, j) :: ms) => by
    have hmembers := spells_prettyMembers (depth + 1) ((key, j) :: ms) (List.cons_ne_nil _ ms)
    exact .object ((hmembers.blanksBefore (isBlank_of_mem_newLine _)).blanksAfter
      (isBlank_of_mem_newLine _))

theorem spells_prettyItems (depth : Nat) : (js : List Json) → js ≠ [] →
    SpellsItems (joinChars (',' :: newLine depth) (prettyItems depth js)) (parsedItems js)
  | [], h => absurd rfl h
  | [j], _ => .one (spells_prettyChars depth j)
  | j :: k :: js, _ => by
    have hrest := spells_prettyItems depth (k :: js) (List.cons_ne_nil k js)
    have hitems := SpellsItems.more (spells_prettyChars depth j)
      (hrest.blanksBefore (isBlank_of_mem_newLine depth))
    rw [prettyItems, prettyItems, joinChars, List.append_assoc]
    exact hitems

theorem spells_prettyMembers (depth : Nat) : (ms : List (String × Json)) → ms ≠ [] →
    SpellsMembers (joinChars (',' :: newLine depth) (prettyMembers depth ms)) (parsedMembers ms)
  | [], h => absurd rfl h
  | [(key, j)], _ =>
    .one (quotedText_quote key) (.blankBefore (.inl rfl) (spells_prettyChars depth j))
  | (key, j) :: m :: ms, _ => by
    have hrest := spells_prettyMembers depth (m :: ms) (List.cons_ne_nil m ms)
    have hmembers := SpellsMembers.more (quotedText_quote key)
      (.blankBefore (.inl rfl) (spells_prettyChars depth j))
      (hrest.blanksBefore (isBlank_of_mem_newLine depth))
    rw [prettyMembers, prettyMembers, joinChars, List.append_assoc, List.append_assoc]
    exact hmembers

end

end NodeAdmission.Json
