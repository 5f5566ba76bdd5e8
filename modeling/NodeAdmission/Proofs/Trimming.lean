import Mathlib.Data.List.TakeWhile
import NodeAdmission.Text.Blank

/-!
# Trimming

A trimmed text is what stands between the blanks at both ends of the text, and it has no blanks at
its own ends. That is all there is to say about it: no other part of the text is like this
(`Text.trimChars_eq_iff`).

The front is done first. The end of a text is the front of its reverse (`reverse_dropBlanksEnd`), so
each lemma for the front gives one for the end.
-/

namespace NodeAdmission.Text

variable {cs front back bare : List Char}

def Blanks (cs : List Char) : Prop := ∀ c ∈ cs, isBlank c = true

/-- There are no blanks at the ends; there may be some in between. -/
structure Bare (cs : List Char) : Prop where
  head : ∀ c ∈ cs.head?, isBlank c = false
  last : ∀ c ∈ cs.getLast?, isBlank c = false

theorem Blanks.reverse (h : Blanks cs) : Blanks cs.reverse :=
  fun c hc => h c (List.mem_reverse.mp hc)

theorem bare_of_forall (h : ∀ c ∈ cs, isBlank c = false) : Bare cs :=
  ⟨fun c hc => h c (List.mem_of_mem_head? hc), fun c hc => h c (List.mem_of_getLast? hc)⟩

/-! ### One end -/

theorem dropBlanks_append (h : Blanks front) : dropBlanks (front ++ cs) = dropBlanks cs :=
  List.dropWhile_append_of_pos h

/-- Nothing is dropped in front of a character that is no blank. -/
theorem dropBlanks_of_head (h : ∀ c ∈ cs.head?, isBlank c = false) : dropBlanks cs = cs := by
  cases cs with
  | nil => rfl
  | cons c cs => exact List.dropWhile_cons_of_neg (by simp [h c rfl])

theorem head?_dropBlanks : ∀ c ∈ (dropBlanks cs).head?, isBlank c = false := by
  intro c hc
  have hnot := List.head?_dropWhile_not isBlank cs
  rw [← dropBlanks, Option.mem_def.mp hc] at hnot
  exact hnot

/-- Only blanks were dropped. -/
theorem exists_append_dropBlanks (cs : List Char) :
    ∃ front, Blanks front ∧ front ++ dropBlanks cs = cs :=
  ⟨cs.takeWhile isBlank, fun _ => List.mem_takeWhile_imp, List.takeWhile_append_dropWhile⟩

/-- The end of the characters is the front of their reverse. -/
theorem reverse_dropBlanksEnd (cs : List Char) :
    (dropBlanksEnd cs).reverse = dropBlanks cs.reverse :=
  List.reverse_reverse _

theorem dropBlanksEnd_append (h : Blanks back) : dropBlanksEnd (cs ++ back) = dropBlanksEnd cs := by
  rw [← List.reverse_inj, reverse_dropBlanksEnd, reverse_dropBlanksEnd, List.reverse_append,
    dropBlanks_append h.reverse]

theorem dropBlanksEnd_of_last (h : ∀ c ∈ cs.getLast?, isBlank c = false) :
    dropBlanksEnd cs = cs := by
  rw [← List.reverse_inj, reverse_dropBlanksEnd]
  exact dropBlanks_of_head (List.head?_reverse ▸ h)

theorem getLast?_dropBlanksEnd : ∀ c ∈ (dropBlanksEnd cs).getLast?, isBlank c = false := by
  rw [← List.head?_reverse, reverse_dropBlanksEnd]
  exact head?_dropBlanks

theorem exists_dropBlanksEnd_append (cs : List Char) :
    ∃ back, Blanks back ∧ dropBlanksEnd cs ++ back = cs := by
  obtain ⟨front, hfront, happend⟩ := exists_append_dropBlanks cs.reverse
  refine ⟨front.reverse, hfront.reverse, ?_⟩
  rw [← List.reverse_inj, List.reverse_append, reverse_dropBlanksEnd, List.reverse_reverse, happend]

/-! ### Both ends -/

theorem bare_trimChars (cs : List Char) : Bare (trimChars cs) := by
  refine ⟨?_, getLast?_dropBlanksEnd⟩
  obtain ⟨back, -, happend⟩ := exists_dropBlanksEnd_append (dropBlanks cs)
  intro c hc
  -- What trimming the end has left begins as it did before.
  have hsame : c ∈ (dropBlanks cs).head? := by
    rw [← happend, List.head?_append]
    exact Option.or_eq_some_iff.mpr (.inl hc)
  exact head?_dropBlanks c hsame

/-- A trimmed text is what is between the blanks at the ends. -/
theorem trimChars_eq_iff :
    trimChars cs = bare ↔
      Bare bare ∧ ∃ front back, Blanks front ∧ Blanks back ∧ front ++ bare ++ back = cs := by
  constructor
  · rintro rfl
    obtain ⟨front, hfront, hbegin⟩ := exists_append_dropBlanks cs
    obtain ⟨back, hback, hend⟩ := exists_dropBlanksEnd_append (dropBlanks cs)
    refine ⟨bare_trimChars cs, front, back, hfront, hback, ?_⟩
    rw [List.append_assoc, trimChars, hend, hbegin]
  · rintro ⟨hbare, front, back, hfront, hback, rfl⟩
    rw [List.append_assoc, trimChars, dropBlanks_append hfront]
    cases bare with
    -- Nothing but blanks: the front takes all of them.
    | nil =>
      rw [List.nil_append, ← List.append_nil back, dropBlanks_append hback]
      rfl
    | cons c cs =>
      have hhead : ∀ d ∈ (c :: cs ++ back).head?, isBlank d = false := hbare.head
      rw [dropBlanks_of_head hhead, dropBlanksEnd_append hback, dropBlanksEnd_of_last hbare.last]

theorem toList_trim (s : String) : (trim s).toList = trimChars s.toList := String.toList_ofList

theorem trimChars_append (h : Blanks back) : trimChars (cs ++ back) = trimChars cs := by
  obtain ⟨hbare, front, back', hfront, hback', happend⟩ :=
    trimChars_eq_iff.mp (rfl : trimChars cs = trimChars cs)
  refine trimChars_eq_iff.mpr ⟨hbare, front, back' ++ back, hfront, ?_, ?_⟩
  · exact fun c hc => (List.mem_append.mp hc).elim (hback' c) (h c)
  · rw [← List.append_assoc, happend]

/-- To trim the end first makes no difference. -/
theorem trimChars_dropBlanksEnd (cs : List Char) : trimChars (dropBlanksEnd cs) = trimChars cs := by
  obtain ⟨back, hback, happend⟩ := exists_dropBlanksEnd_append cs
  calc trimChars (dropBlanksEnd cs)
    _ = trimChars (dropBlanksEnd cs ++ back) := (trimChars_append hback).symm
    _ = trimChars cs := by rw [happend]

end NodeAdmission.Text
