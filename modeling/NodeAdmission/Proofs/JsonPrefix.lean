import NodeAdmission.Json.Decoder

/-!
# Documents that break off

A record ends with the mark that closes it, and from then on every byte but a blank is too much. So
a text of a record cannot go on after it, unless with blanks (`Decoder.decode_append`). The argument
has one part on each stage of the reader.

1. What one byte can do to the machine is said once (`Scan.step_cases`): it is without effect, or a
   token ends or begins, or reading stops. From this it follows that tokens are never taken back
   (`Scan.Passes`), that behind a closing mark the machine is between two tokens
   (`Scan.Sound.between_of_finish`), and that any byte but a blank then leads to another token
   (`Scan.passes_of_not_isBlank`).
2. Only a closing mark completes an array or an object (`Assembly.step_ne`), and a value that is
   complete bears no more tokens (`Document.ofTokens_eq`).
3. A record is read only of a value with its closing mark (`Decoder.isClosed_of_record`).

That nothing is taken back is not quite true of the machine. A token that is still open may turn out
to be another one, so `Passes` counts tokens from the last one that was complete.
-/

namespace NodeAdmission.Json

variable {s r : Scan} {b : UInt8} {t : Token} {ts : List Token} {v : Parsed}

/-! ### The moves of the machine -/

def Token.isBroken : Token → Bool
  | .brokenString _ => true
  | .broken _ => true
  | _ => false

def Token.closes : Token → Bool
  | .closeArray => true
  | .closeObject => true
  | _ => false

theorem Token.closes_of_isBroken (h : t.isBroken = true) : t.closes = false := by
  cases t <;> first | rfl | cases h

def Mode.isPending : Mode → Bool
  | .between => false
  | .stopped => false
  | _ => true

namespace Scan

/-- What can become of the machine: a token ends or begins, or reading stops. -/
inductive Move (s : Scan) : Scan → Prop
  | emit (t : Token) : Move s (s.emit t)
  | pend {mode : Mode} (h : mode.isPending = true) : Move s ⟨s.tokens, mode⟩
  | stop {t : Token} (h : t.isBroken = true) : Move s (s.stop t)

/-- The machine moves, perhaps after the end of a token that only shows behind it. -/
def Moves (s r : Scan) : Prop := Move s r ∨ ∃ t, Move (s.emit t) r

theorem Move.stopString (content : List Piece) (e : DecodeError) :
    Move s (s.stopString content e) :=
  .stop (t := .brokenString _) rfl

theorem Move.refuse : Move s s.refuse := .stop (t := .broken _) rfl

theorem stepBetween_of_isBlank (h : isBlank b = true) : s.stepBetween b = s := by
  rw [stepBetween, if_pos h]

/-- Between two tokens a byte that is no blank begins a token. -/
theorem move_stepBetween (h : isBlank b = false) : Move s (s.stepBetween b) := by
  fun_cases stepBetween s b
  case case1 hblank => exact absurd hblank (by simp [h])
  all_goals first | exact .emit _ | exact .pend rfl | exact .refuse

theorem moves_emit_stepBetween (t : Token) : Moves s ((s.emit t).stepBetween b) := by
  cases h : isBlank b with
  | true =>
    rw [stepBetween_of_isBlank h]
    exact .inl (.emit t)
  | false => exact .inr ⟨t, move_stepBetween h⟩

/-- Inside a string every byte moves the machine. -/
theorem move_stepString (content : List Piece) (escape : Escape) :
    Move s (s.stepString content escape b) := by
  unfold stepString
  repeat' split
  all_goals first | exact .emit _ | exact .pend rfl | exact .stopString _ _

/-- Inside a number too, and a byte that is no part of the number may begin the next token. -/
theorem moves_stepNumber (place : NumberPlace) (n : Number) : Moves s (s.stepNumber place n b) := by
  unfold stepNumber
  simp only
  repeat' split
  all_goals first | exact moves_emit_stepBetween _ | exact .inl (.pend rfl) | exact .inl .refuse

/-- A byte is without effect, or the machine moves. -/
theorem step_cases (s : Scan) (b : UInt8) : s.step b = s ∨ Moves s (s.step b) := by
  obtain ⟨tokens, mode⟩ := s
  cases mode with
  | between =>
    cases h : isBlank b with
    | true => exact .inl (stepBetween_of_isBlank h)
    | false => exact .inr (.inl (move_stepBetween h))
  -- A word is complete with its last letter, and any other letter than the next is refused.
  | word rest t =>
    match rest with
    | [] => exact .inr (moves_emit_stepBetween t)
    | [x] =>
      show _ ∨ Moves _ (if b = x then _ else _)
      split
      · exact .inr (.inl (.emit t))
      · exact .inr (.inl .refuse)
    | x :: y :: rest =>
      show _ ∨ Moves _ (if b = x then _ else _)
      split
      · exact .inr (.inl (.pend rfl))
      · exact .inr (.inl .refuse)
  | string content escape => exact .inr (.inl (move_stepString content escape))
  | number place n => exact .inr (moves_stepNumber place n)
  | stopped => exact .inl rfl

/-! ### Tokens are never taken back -/

/-- The tokens of `s` were read, and more has come since then. -/
structure Passes (s r : Scan) : Prop where
  suffix : s.tokens <:+ r.tokens
  lt : s.tokens.length < r.finish.length

/-- Where the machine is in the middle of a token, the end of the text makes a token of it. -/
theorem length_finish (s : Scan) :
    s.finish.length = s.tokens.length + if s.mode.isPending then 1 else 0 := by
  obtain ⟨tokens, mode⟩ := s
  cases mode with
  | between | word | string | stopped => rfl
  | number place n => cases place <;> rfl

/-- The tokens that were read are still there in the end. -/
theorem suffix_finish (s : Scan) : s.tokens <:+ s.finish := by
  obtain ⟨tokens, mode⟩ := s
  cases mode with
  | between | stopped => exact List.suffix_refl _
  | word | string => exact List.suffix_cons _ _
  | number place n => cases place <;> exact List.suffix_cons _ _

/-- A move leads to one token more in the end. -/
theorem Move.passes (h : Move s r) : s.Passes r := by
  cases h with
  | emit t => exact ⟨List.suffix_cons _ _, Nat.lt_succ_self _⟩
  | pend h => exact ⟨List.suffix_refl _, by simp [length_finish, h]⟩
  | stop h => exact ⟨List.suffix_cons _ _, Nat.lt_succ_self _⟩

theorem Moves.passes (h : Moves s r) : s.Passes r := by
  rcases h with h | ⟨t, h⟩
  · exact h.passes
  · obtain ⟨hsuffix, hlt⟩ := h.passes
    exact ⟨(List.suffix_cons t s.tokens).trans hsuffix, Nat.lt_of_succ_lt hlt⟩

/-- What has come stays, whatever byte follows. -/
theorem Passes.step (h : s.Passes r) (b : UInt8) : s.Passes (r.step b) := by
  rcases r.step_cases b with heq | hmoves
  · rw [heq]
    exact h
  · obtain ⟨hsuffix, hlt⟩ := hmoves.passes
    -- At most the token that was pending in `r` is no longer there, and
    -- another one has come for it.
    have hfinish := r.length_finish
    refine ⟨h.suffix.trans hsuffix, Nat.lt_of_lt_of_le h.lt ?_⟩
    split at hfinish <;> omega

theorem Passes.foldl (h : s.Passes r) (bytes : Bytes) : s.Passes (bytes.foldl Scan.step r) := by
  induction bytes generalizing r with
  | nil => exact h
  | cons b bytes ih => exact ih (h.step b)

/-- Between two tokens only blanks are without effect. -/
theorem passes_of_not_isBlank (hmode : s.mode = .between) {bytes : Bytes}
    (h : ∃ b ∈ bytes, isBlank b = false) : s.Passes (bytes.foldl step s) := by
  obtain ⟨tokens, mode⟩ := s
  obtain rfl : mode = .between := hmode
  induction bytes with
  | nil => simp at h
  | cons b bytes ih =>
    cases hb : isBlank b with
    | true =>
      have hstep : (⟨tokens, .between⟩ : Scan).step b = ⟨tokens, .between⟩ :=
        stepBetween_of_isBlank hb
      rw [List.foldl_cons, hstep]
      exact ih (by simpa [hb] using h)
    | false => exact Passes.foldl (move_stepBetween hb).passes bytes

/-- Behind the tokens of `s` there are more. -/
theorem Passes.exists_append (h : s.Passes r) :
    ∃ ts, ts ≠ [] ∧ r.finish.reverse = s.tokens.reverse ++ ts := by
  obtain ⟨ts, hts⟩ := h.suffix.trans r.suffix_finish
  refine ⟨ts.reverse, ?_, by rw [← hts, List.reverse_append]⟩
  rintro hnil
  obtain rfl : ts = [] := List.reverse_eq_nil_iff.mp hnil
  exact absurd h.lt (by rw [← hts]; simp)

/-! ### After a closing mark -/

/-- Reading has stopped only behind damage. -/
def Sound (s : Scan) : Prop := s.mode = .stopped → ∃ t ts, s.tokens = t :: ts ∧ t.isBroken = true

/-- Reading stops with a token for the damage. -/
theorem Move.sound (h : Move s r) : r.Sound := by
  cases h with
  | emit t => exact nofun
  | pend h =>
    rintro rfl
    cases h
  | stop h => exact fun _ => ⟨_, _, rfl, h⟩

theorem Sound.step (h : s.Sound) (b : UInt8) : (s.step b).Sound := by
  rcases s.step_cases b with heq | hmove | ⟨t, hmove⟩
  · rw [heq]
    exact h
  · exact hmove.sound
  · exact hmove.sound

theorem sound_foldl (bytes : Bytes) (h : s.Sound) : (bytes.foldl step s).Sound := by
  induction bytes generalizing s with
  | nil => exact h
  | cons b bytes ih => exact ih (h.step b)

/-- Behind a closing mark the machine is between two tokens. -/
theorem Sound.between_of_finish (h : s.Sound) (hfinish : s.finish = t :: ts)
    (hcloses : t.closes = true) :
    s.mode = .between ∧ s.tokens = t :: ts := by
  obtain ⟨tokens, mode⟩ := s
  cases mode with
  | between => exact ⟨rfl, hfinish⟩
  -- A token that is still open would be damage, which closes nothing.
  | word | string =>
    obtain ⟨rfl, -⟩ := List.cons.inj hfinish
    cases hcloses
  | number place n =>
    cases place <;>
    · obtain ⟨rfl, -⟩ := List.cons.inj hfinish
      cases hcloses
  | stopped =>
    obtain ⟨t', ts', heq, hbroken⟩ := h rfl
    obtain ⟨rfl, -⟩ := List.cons.inj (heq.symm.trans hfinish)
    exact absurd hcloses (Bool.eq_false_iff.mp (Token.closes_of_isBroken hbroken))

end Scan

/-! ### Documents that are closed

Damage and values that are still open complete nothing that has a closing mark. So the token that
completes such a value is the mark itself. -/

def Parsed.isClosed : Parsed → Bool
  | .array _ .closed => true
  | .object _ .closed => true
  | _ => false

namespace Assembly

variable {a : Assembly} {d : Damage} {frames : List Frame}

/-- Nothing around damage has its closing mark. -/
theorem abandon_isClosed (h : v.isClosed = false) : (abandon d v frames).isClosed = false := by
  induction frames generalizing v with
  | nil => exact h
  | cons frame frames ih =>
    cases frame with
    | item before => exact ih rfl
    | member before key => exact ih rfl

variable {w : Parsed} {trailing : Bool}

/-- Damage does not complete a value with a closing mark. -/
theorem damaged_ne (hv : v.isClosed = true) (hw : w.isClosed = false) :
    damaged d w frames ≠ .complete v trailing := by
  intro h
  obtain ⟨rfl, -⟩ := Assembly.complete.inj h
  exact absurd hv (Bool.eq_false_iff.mp (abandon_isClosed hw))

/-- A value without a closing mark does not complete one that has it. -/
theorem deliver_ne (hv : v.isClosed = true) (hw : w.isClosed = false) :
    deliver w frames ≠ .complete v trailing := by
  cases frames with
  | nil =>
    intro h
    obtain ⟨rfl, -⟩ := Assembly.complete.inj h
    exact absurd hv (Bool.eq_false_iff.mp hw)
  | cons frame frames => cases frame <;> exact nofun

theorem stepValue_ne (hv : v.isClosed = true) (t : Token) :
    stepValue frames t ≠ .complete v trailing := by
  cases t with
  | openArray | openObject => exact nofun
  | null | bool | number | string => exact deliver_ne hv rfl
  | closeArray | closeObject | comma | colon | brokenString | broken => exact damaged_ne hv rfl

theorem stepKey_ne (hv : v.isClosed = true) (before : List (List Piece × Parsed)) (t : Token) :
    stepKey before frames t ≠ .complete v trailing := by
  cases t with
  | string content => exact nofun
  | _ => exact damaged_ne hv rfl

/-- Only a closing mark completes an array or object. -/
theorem step_ne (hv : v.isClosed = true) (ht : t.closes = false) :
    a.step t ≠ .complete v false := by
  fun_cases step a t
  all_goals first
    | exact stepValue_ne hv _
    | exact stepKey_ne hv _ _
    | exact damaged_ne hv rfl
    | exact Bool.noConfusion ht
    | simp

/-- A text that ends inside a value does not have its closing mark. -/
theorem finish_ne (hv : v.isClosed = true) {place : Place} :
    (Assembly.inside place frames).finish ≠ ⟨v, trailing⟩ := by
  intro h
  cases place <;>
  · obtain ⟨rfl, -⟩ := Document.mk.inj h
    exact absurd hv (Bool.eq_false_iff.mp (abandon_isClosed rfl))

/-- Behind a complete value every token is too much. -/
theorem foldl_complete (ts : List Token) (hts : ts ≠ []) :
    ts.foldl step (.complete v trailing) = .complete v true := by
  induction ts generalizing trailing with
  | nil => exact absurd rfl hts
  | cons t ts ih =>
    cases ts with
    | nil => rfl
    | cons u us => exact ih (List.cons_ne_nil u us)

end Assembly

namespace Document

/-- The tokens of a value with a closing mark end with it, and may not be followed by others. -/
theorem ofTokens_eq (h : ofTokens ts = ⟨v, false⟩) (hv : v.isClosed = true) :
    (∃ us t, ts = us ++ [t] ∧ t.closes = true) ∧
      ∀ us, us ≠ [] → ofTokens (ts ++ us) = ⟨v, true⟩ := by
  -- The value was completed by its tokens, and not by the end of the text.
  have hcomplete : ts.foldl Assembly.step .start = .complete v false := by
    unfold ofTokens at h
    cases hlast : ts.foldl Assembly.step .start with
    | inside place frames =>
      rw [hlast] at h
      exact absurd h (Assembly.finish_ne hv)
    | complete w trailing =>
      rw [hlast] at h
      obtain ⟨rfl, rfl⟩ := Document.mk.inj h
      rfl
  refine ⟨?_, fun us hus => ?_⟩
  · rcases ts.eq_nil_or_concat with rfl | ⟨us, t, rfl⟩
    · cases hcomplete
    · refine ⟨us, t, List.concat_eq_append, ?_⟩
      cases ht : t.closes with
      | true => rfl
      | false =>
        rw [List.concat_eq_append, List.foldl_append] at hcomplete
        exact absurd hcomplete (Assembly.step_ne hv ht)
  · rw [ofTokens, List.foldl_append, hcomplete, Assembly.foldl_complete us hus]
    rfl

/-- A text of a value with a closing mark may be followed by blanks only. -/
theorem read_append {kept lost : Bytes} (h : read kept = ⟨v, false⟩) (hv : v.isClosed = true)
    (hlost : ∃ b ∈ lost, Scan.isBlank b = false) : read (kept ++ lost) = ⟨v, true⟩ := by
  obtain ⟨⟨us, t, heq, ht⟩, hmore⟩ := ofTokens_eq h hv
  have hsound : (kept.foldl Scan.step .start).Sound := Scan.sound_foldl kept nofun
  generalize hs : kept.foldl Scan.step .start = s at hsound
  have hfinish : s.finish = t :: us.reverse := by
    rw [tokens, hs, List.reverse_eq_iff, List.reverse_append] at heq
    exact heq
  -- The last token closes the value, so the machine waits for a token when the rest comes.
  obtain ⟨hmode, htokens⟩ := hsound.between_of_finish hfinish ht
  obtain ⟨ts, hts, hmoretokens⟩ := (Scan.passes_of_not_isBlank hmode hlost).exists_append
  rw [read, tokens, List.foldl_append, hs, hmoretokens, htokens, ← hfinish]
  rw [tokens, hs] at hmore
  exact hmore ts hts

end Document

/-! ### Records -/

namespace Decoder

/-- Fields by position are read of a closed array only. -/
theorem positions_closed {δ : Type} {fields : List (Field δ)} {vs : List Parsed} {ending : Ending}
    {draft draft' : δ} (h : positions fields vs ending draft = .ok draft') : ending = .closed := by
  induction vs generalizing fields draft with
  | nil =>
    cases ending with
    | closed => rfl
    | broken d => cases fields <;> cases h
  | cons v vs ih =>
    cases fields with
    | nil => cases h
    | cons f fields =>
      rw [positions] at h
      split at h
      · cases h
      · exact ih h

/-- A record is read only of a value with a closing mark. -/
theorem isClosed_of_record {δ : Type} {fields : List (Field δ)} {blank : δ}
    {complete : δ → Option α}
    {a : α} (h : record fields blank complete v = .ok a) : v.isClosed = true := by
  cases v with
  | object ms ending =>
    cases ending with
    | closed => rfl
    | broken d =>
      rw [record] at h
      split at h <;> cases h
  | array vs ending =>
    rw [record] at h
    split at h
    · cases h
    · next hpositions =>
      -- An array stands for its fields in order only if it is closed.
      obtain rfl := positions_closed hpositions
      rfl
  | null | bool | number | string | broken => cases h

theorem decode_eq_ok {d : Decoder α} {bytes : Bytes} {a : α} (h : d.decode bytes = .ok a) :
    ∃ v, Document.read bytes = ⟨v, false⟩ ∧ d v = .ok a := by
  unfold decode at h
  generalize Document.read bytes = document at h
  obtain ⟨v, trailing⟩ := document
  simp only at h
  split at h
  · cases h
  · next hv =>
    split at h
    · cases h
    · next htrailing =>
      obtain rfl : trailing = false := Bool.eq_false_iff.mpr htrailing
      exact ⟨v, rfl, hv.trans h⟩

/-- Of two texts of a record the longer one has only blanks more. -/
theorem decode_append {d : Decoder α} (hd : ∀ v a, d v = .ok a → v.isClosed = true)
    {kept lost : Bytes}
    {a : α} (h : d.decode kept = .ok a) (hlost : ∃ b ∈ lost, Scan.isBlank b = false) :
    d.decode (kept ++ lost) = .error .malformed := by
  obtain ⟨v, hread, hv⟩ := decode_eq_ok h
  rw [decode, Document.read_append hread (hd v a hv) hlost]
  simp only [hv]
  rfl

end Decoder
end NodeAdmission.Json
