import NodeAdmission.Proofs.JsonTokens

/-!
# The document of a JSON text

A text that spells a value is read as this value, closed and with nothing behind it.

The assembler puts a value into the innermost frame whichever it is. What it does with the tokens of
a value can therefore be said for all frames at once, and this is what `Delivers` says: behind the
tokens the assembler is where it would be if the value had been handed to the frame as a whole. The
induction follows the text.

* `Delivers`, `DeliversItems`, `DeliversMembers` — one predicate for each of the three kinds of
  texts. Items and members are delivered together with the mark that closes them, for before that
  mark there is no value yet.
* `Delivers.array`, `Delivers.item` and their like — one lemma for each way to put texts together.
* `Spells.tokens` — every spelling has tokens that deliver its value, by mutual
  recursion over the spelling.
* `read_of_spells` — the document is the value.
-/

namespace NodeAdmission.Json

variable {cs ds ks : List Char} {ts us : List Token} {v : Parsed} {vs before : List Parsed}
  {key : List Piece} {ms earlier : List (List Piece × Parsed)}

/-! ### Tokens of values -/

/-- The tokens are those of a value: it goes where the innermost frame wants it. -/
structure Delivers (ts : List Token) (v : Parsed) : Prop where
  /-- An array may not end instead. -/
  first : ∃ t us, ts = t :: us ∧ t ≠ .closeArray
  foldl : ∀ frames, ts.foldl Assembly.step (.inside .value frames) = Assembly.deliver v frames

/-- The tokens are those of items that end an array. -/
structure DeliversItems (ts : List Token) (vs : List Parsed) : Prop where
  first : ∃ t us, ts = t :: us ∧ t ≠ .closeArray
  foldl : ∀ before frames,
    (ts ++ [Token.closeArray]).foldl Assembly.step (.inside .value (.item before :: frames)) =
      Assembly.deliver (.array (before.reverse ++ vs) .closed) frames

/-- The tokens are those of members that end an object. -/
structure DeliversMembers (ts : List Token) (ms : List (List Piece × Parsed)) : Prop where
  first : ∃ content us, ts = .string content :: us
  foldl : ∀ earlier frames,
    (ts ++ [Token.closeObject]).foldl Assembly.step (.inside (.key earlier) frames) =
      Assembly.deliver (.object (earlier.reverse ++ ms) .closed) frames

namespace Delivers

theorem one {t : Token} (hne : t ≠ .closeArray)
    (h : ∀ frames, Assembly.stepValue frames t = Assembly.deliver v frames) : Delivers [t] v :=
  ⟨⟨t, [], rfl, hne⟩, h⟩

theorem emptyArray : Delivers [.openArray, .closeArray] (.array [] .closed) :=
  ⟨⟨_, _, rfl, by simp⟩, fun _ => rfl⟩

theorem emptyObject : Delivers [.openObject, .closeObject] (.object [] .closed) :=
  ⟨⟨_, _, rfl, by simp⟩, fun _ => rfl⟩

/-- Items between brackets are delivered as an array. -/
theorem array (h : DeliversItems ts vs) :
    Delivers (.openArray :: (ts ++ [.closeArray])) (.array vs .closed) := by
  refine ⟨⟨_, _, rfl, by simp⟩, ?_⟩
  intro frames
  obtain ⟨t, us, rfl, hne⟩ := h.first
  have hitems := h.foldl [] frames
  rw [List.cons_append, List.foldl_cons] at hitems ⊢
  -- Before its first item an array takes a value as any item.
  have hfirst : Assembly.step (.inside .firstItem frames) t =
      Assembly.step (.inside .value (.item [] :: frames)) t := by
    cases t <;> first | rfl | exact absurd rfl hne
  rw [List.foldl_cons]
  show (us ++ _).foldl _ (Assembly.step (.inside .firstItem frames) t) = _
  rw [hfirst, hitems]
  rfl

/-- Members between braces are delivered as an object. -/
theorem object (h : DeliversMembers ts ms) :
    Delivers (.openObject :: (ts ++ [.closeObject])) (.object ms .closed) := by
  refine ⟨⟨_, _, rfl, by simp⟩, ?_⟩
  intro frames
  obtain ⟨content, us, rfl⟩ := h.first
  exact h.foldl [] frames

/-- A value is the last of its items. -/
theorem lastItem (h : Delivers ts v) : DeliversItems ts [v] := by
  refine ⟨h.first, ?_⟩
  intro before frames
  rw [List.foldl_append, h.foldl]
  show Assembly.deliver (.array (v :: before).reverse .closed) frames = _
  rw [List.reverse_cons]

theorem item (h : Delivers ts v) (h' : DeliversItems us vs) :
    DeliversItems (ts ++ .comma :: us) (v :: vs) := by
  refine ⟨?_, ?_⟩
  · obtain ⟨t, rest, rfl, hne⟩ := h.first
    exact ⟨t, _, rfl, hne⟩
  · intro before frames
    have hrest := h'.foldl (v :: before) frames
    rw [List.reverse_cons, List.append_assoc] at hrest
    -- After the first item comes the comma, and then the other items with this one before them.
    rw [List.append_assoc, List.foldl_append, h.foldl]
    exact hrest

/-- A key with its value is the last of its members. -/
theorem lastMember (h : Delivers ts v) (key : List Piece) :
    DeliversMembers (.string key :: .colon :: ts) [(key, v)] := by
  refine ⟨⟨_, _, rfl⟩, ?_⟩
  intro earlier frames
  show (ts ++ [Token.closeObject]).foldl Assembly.step
    (.inside .value (.member earlier key :: frames)) = _
  rw [List.foldl_append, h.foldl]
  show Assembly.deliver (.object ((key, v) :: earlier).reverse .closed) frames = _
  rw [List.reverse_cons]

theorem member (h : Delivers ts v) (key : List Piece) (h' : DeliversMembers us ms) :
    DeliversMembers (.string key :: .colon :: (ts ++ .comma :: us)) ((key, v) :: ms) := by
  refine ⟨⟨_, _, rfl⟩, ?_⟩
  intro earlier frames
  have hrest := h'.foldl ((key, v) :: earlier) frames
  rw [List.reverse_cons, List.append_assoc] at hrest
  show (ts ++ Token.comma :: us ++ [Token.closeObject]).foldl Assembly.step
    (.inside .value (.member earlier key :: frames)) = _
  rw [List.append_assoc, List.foldl_append, h.foldl]
  exact hrest

end Delivers

/-! ### Texts -/

theorem Lexes.member (h : QuotedText ks key) (h' : Lexes cs ts) :
    Lexes (ks ++ ':' :: cs) (.string key :: .colon :: ts) :=
  (Lexes.quoted h).mark (by simp [marks]) h'

mutual

/-- The tokens of a text that spells a value. -/
theorem Spells.tokens :
    {cs : List Char} → {v : Parsed} → Spells cs v → ∃ ts, Lexes cs ts ∧ Delivers ts v
  | _, _, .null => ⟨[.null], .of_run fun _ => rfl, .one (by simp) fun _ => rfl⟩
  | _, _, .true => ⟨[.bool .true], .of_run fun _ => rfl, .one (by simp) fun _ => rfl⟩
  | _, _, .false => ⟨[.bool .false], .of_run fun _ => rfl, .one (by simp) fun _ => rfl⟩
  | _, _, .number h => ⟨_, .number h, .one (by simp) fun _ => rfl⟩
  | _, _, .string h => ⟨_, .quoted h, .one (by simp) fun _ => rfl⟩
  | _, _, .emptyArray h =>
    ⟨_, (Lexes.blanks h).between (by simp [marks]) (by simp [marks]), .emptyArray⟩
  | _, _, .array h =>
    let ⟨_, hlexes, hdelivers⟩ := h.tokens
    ⟨_, hlexes.between (by simp [marks]) (by simp [marks]), .array hdelivers⟩
  | _, _, .emptyObject h =>
    ⟨_, (Lexes.blanks h).between (by simp [marks]) (by simp [marks]), .emptyObject⟩
  | _, _, .object h =>
    let ⟨_, hlexes, hdelivers⟩ := h.tokens
    ⟨_, hlexes.between (by simp [marks]) (by simp [marks]), .object hdelivers⟩
  | _, _, .blankBefore hc h =>
    let ⟨_, hlexes, hdelivers⟩ := h.tokens
    ⟨_, hlexes.blankBefore hc, hdelivers⟩
  | _, _, .blankAfter hc h =>
    let ⟨_, hlexes, hdelivers⟩ := h.tokens
    ⟨_, hlexes.blankAfter hc, hdelivers⟩

theorem SpellsItems.tokens : {cs : List Char} → {vs : List Parsed} → SpellsItems cs vs →
    ∃ ts, Lexes cs ts ∧ DeliversItems ts vs
  | _, _, .one h =>
    let ⟨_, hlexes, hdelivers⟩ := h.tokens
    ⟨_, hlexes, hdelivers.lastItem⟩
  | _, _, .more h hrest =>
    let ⟨_, hlexes, hdelivers⟩ := h.tokens
    let ⟨_, hlexes', hdelivers'⟩ := hrest.tokens
    ⟨_, hlexes.mark (by simp [marks]) hlexes', hdelivers.item hdelivers'⟩

theorem SpellsMembers.tokens : {cs : List Char} → {ms : List (List Piece × Parsed)} →
    SpellsMembers cs ms → ∃ ts, Lexes cs ts ∧ DeliversMembers ts ms
  | _, _, .one hkey h =>
    let ⟨_, hlexes, hdelivers⟩ := h.tokens
    ⟨_, .member hkey hlexes, hdelivers.lastMember _⟩
  | _, _, .more hkey h hrest =>
    let ⟨_, hlexes, hdelivers⟩ := h.tokens
    let ⟨_, hlexes', hdelivers'⟩ := hrest.tokens
    ⟨_, .member hkey (hlexes.mark (by simp [marks]) hlexes'), hdelivers.member _ hdelivers'⟩

end

/-- The document of a text that spells a value is the value, and nothing is left. -/
theorem read_of_spells (h : Spells cs v) : Document.read (Utf8.encodeChars cs) = ⟨v, false⟩ := by
  obtain ⟨ts, hlexes, hdelivers⟩ := h.tokens
  rw [Document.read, hlexes.tokens, Document.ofTokens, Assembly.start, hdelivers.foldl]
  rfl

end NodeAdmission.Json
