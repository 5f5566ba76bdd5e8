import Mathlib.Tactic.SplitIfs
import NodeAdmission.Admin.Arguments
import NodeAdmission.Proofs.Base64

/-!
# The last option

Where the last two arguments are an option of the command and its value, the arguments before them
are read alike whatever the value is. So an import that is accepted with one line is accepted with
every line that does not look like an option, and it differs in nothing else.

* `Trailing`, `items_append` — what the arguments of a command say that end like this.
* `leading_append` — the arguments before the command do not depend on those after it.
* `bad_mem_leading` — an option of the command is wrong before the command.
* `command_read_line` — the arguments of an import.
* `read_importKey_line` — all arguments of a run.

The inductions follow the functions that read arguments (`items`, `leading`, `gather`), with one
case for each of their branches.
-/

namespace NodeAdmission.Admin

variable {level : Level} {topic : Topic} {check : String → String → Bool} {arity : Nat}
    {d d' : Draft}
  {name key option : String} {front rest tail : List String}

/-! ### Shapes -/

/-- The argument looks like a word, not like an option. -/
def IsWord (arg : String) : Prop := Shape.of arg = .word arg

instance (arg : String) : Decidable (IsWord arg) := inferInstanceAs (Decidable (_ = _))

theorem isWord_of_shape {arg w : String} (h : Shape.of arg = .word w) : IsWord arg := by
  have hw : w = arg := by
    unfold Shape.of at h
    split at h <;> cases h <;> rfl
  rwa [hw] at h

/-- Whatever is not a word begins with a dash. -/
theorem exists_eq_cons_of_not_isWord {arg : String} (h : ¬ IsWord arg) :
    ∃ cs, arg.toList = '-' :: cs := by
  rw [IsWord, Shape.of] at h
  split at h
  · next heq => exact ⟨_, heq⟩
  · next heq => exact ⟨_, heq⟩
  · next heq => exact ⟨_, heq⟩
  · next heq => exact ⟨_, heq⟩
  · exact absurd rfl h

/-! ### Gathering -/

/-- Items are gathered from left to right. -/
theorem gather_append {is js : List Item} :
    gather topic check arity (is ++ js) d =
      gather topic check arity is d >>= gather topic check arity js := by
  fun_induction gather topic check arity is d with
  | case1 | case2 | case3 | case4 => rfl
  -- The two options and the words have a branch that refuses and one that goes on.
  | case5 option value is d h =>
    rw [List.cons_append, gather, if_pos h]
    rfl
  | case6 option value is d h ih => rw [List.cons_append, gather, if_neg h, ih]
  | case7 option is d h =>
    rw [List.cons_append, gather, if_pos h]
    rfl
  | case8 option is d h ih => rw [List.cons_append, gather, if_neg h, ih]
  | case9 w is d h ih => rw [List.cons_append, gather, if_pos h, ih]
  | case10 w is d h =>
    rw [List.cons_append, gather, if_neg h]
    rfl

theorem gather_ne_ok_of_bad {is : List Item} (h : .bad ∈ is) :
    gather topic check arity is d ≠ .ok d' := by
  fun_induction gather topic check arity is d <;> simp_all

theorem gather_two_words (a b : String) :
    gather topic check 1 [.word a, .word b] d = .error .usage := by
  simp only [gather]
  split_ifs with h h'
  · simp at h'
  · rfl
  · rfl

/-! ### Arguments of a command -/

/-- An option does not take another option for its value. -/
theorem items_of_needsValue {arg value : String} (hread : level.read arg = .needsValue name)
    (hvalue : ¬ IsWord value) : items level (arg :: value :: rest) = [.bad] := by
  simp only [items, hread]
  split
  · next hshape => exact absurd (isWord_of_shape hshape) hvalue
  · rfl

theorem items_of_needsValue_of_isWord {arg value : String}
    (hread : level.read arg = .needsValue name)
    (hvalue : IsWord value) :
    items level (arg :: value :: rest) = .valued name value :: items level rest := by
  rw [IsWord] at hvalue
  simp only [items, hread, hvalue]

/-- What arguments say that end with an option and its value `v`: the option takes the value, or
something before them takes the option, which is wrong, or both are words. -/
inductive Trailing (level : Level) (option : String) (f : String → List Item) : Prop where
  | taken (is : List Item) : (∀ v, f v = is ++ items level [option, v]) → Trailing level option f
  | wrong : (∀ v, .bad ∈ f v) → Trailing level option f
  | words (is : List Item) : (∀ v, f v = is ++ [.word option, .word v]) → Trailing level option f

theorem Trailing.cons {f : String → List Item} (h : Trailing level option f) (i : Item) :
    Trailing level option fun v => i :: f v := by
  cases h with
  | taken is his => exact .taken (i :: is) fun v => congrArg (i :: ·) (his v)
  | wrong hbad => exact .wrong fun v => List.mem_cons_of_mem i (hbad v)
  | words is his => exact .words (i :: is) fun v => congrArg (i :: ·) (his v)

/-- What is in front of the option decides what becomes of it, and the value does not. -/
theorem items_append (hoption : ¬ IsWord option) (front : List String) :
    Trailing level option fun v => items level (front ++ [option, v]) := by
  fun_induction items level front with
  | case1 => exact .taken [] fun _ => rfl
  | case2 arg args hescape =>
    -- After `--` everything is a word.
    refine .words (args.map .word) fun v => ?_
    simp [items, hescape]
  | case3 arg args i hi ih =>
    simp only [List.cons_append, items, hi]
    exact ih.cons i
  | case4 arg name hneeds =>
    -- The last argument in front would take the option for its own value.
    exact .wrong fun v => by simp [items_of_needsValue hneeds hoption]
  | case5 arg name hneeds value args w hw ih =>
    have hvalue := isWord_of_shape hw
    obtain rfl := Shape.word.inj (hw.symm.trans hvalue)
    simp only [List.cons_append, items_of_needsValue_of_isWord hneeds hvalue]
    exact ih.cons _
  | case6 arg name hneeds value args hvalue =>
    refine .wrong fun v => ?_
    rw [List.cons_append, List.cons_append, items_of_needsValue hneeds (hvalue value)]
    exact List.mem_singleton.mpr rfl

/-! ### Arguments before the command -/

theorem leading_of_item {arg : String} {args : List String} {i : Item}
    (hread : level.read arg = .item i)
    (hi : ∀ w, i ≠ .word w) : leading level (arg :: args) = (leading level args).after i := by
  cases i with
  | word w => exact absurd rfl (hi w)
  | _ => simp only [leading, hread]

theorem leading_of_needsValue {arg value : String} (hread : level.read arg = .needsValue name)
    (hvalue : ¬ IsWord value) : leading level (arg :: value :: rest) = .wrong := by
  simp only [leading, hread]
  split
  · next hshape => exact absurd (isWord_of_shape hshape) hvalue
  · rfl

theorem leading_of_needsValue_of_isWord {arg value : String}
    (hread : level.read arg = .needsValue name)
    (hvalue : IsWord value) :
    leading level (arg :: value :: rest) = (leading level rest).afterValued name value := by
  rw [IsWord] at hvalue
  simp only [leading, hread, hvalue]

/-- The opening with more arguments for the command. -/
def Opening.followedBy (o : Opening) (tail : List String) : Opening :=
  { o with command := o.command.map fun c => (c.1, c.2 ++ tail) }

theorem Opening.afterValued_followedBy (o : Opening) (value : String) :
    (o.afterValued name value).followedBy tail = (o.followedBy tail).afterValued name value := by
  simp only [afterValued, followedBy, Option.isSome_map]
  split_ifs <;> rfl

/-- Arguments after the command are left to it. -/
theorem leading_append (h : (leading level front).command.isSome) :
    leading level (front ++ tail) = (leading level front).followedBy tail := by
  fun_induction leading level front with
  | case1 => cases h
  | case2 arg args hescape => cases h
  | case3 arg args w hw =>
    simp only [List.cons_append, leading, hw]
    rfl
  | case4 arg args i hword hi ih =>
    rw [List.cons_append, leading_of_item hi hword, ih h]
    rfl
  | case5 => cases h
  | case6 arg name hneeds value args w hw ih =>
    have hvalue := isWord_of_shape hw
    obtain rfl := Shape.word.inj (hw.symm.trans hvalue)
    -- An option that comes late leaves the command where it is.
    have hargs : (leading level args).command.isSome := by
      rw [Opening.afterValued] at h
      split_ifs at h <;> exact h
    rw [List.cons_append, List.cons_append, leading_of_needsValue_of_isWord hneeds hvalue, ih hargs,
      Opening.afterValued_followedBy]
  | case7 => cases h

/-- Where no command has come, an argument that is wrong before the command remains wrong. -/
theorem bad_mem_leading (hoption : ¬ IsWord option) (hbad : level.read option = .item .bad)
    (h : (leading level front).command = none) :
    .bad ∈ (leading level (front ++ option :: rest)).items := by
  fun_induction leading level front with
  | case1 =>
    rw [List.nil_append, leading_of_item hbad nofun]
    exact List.mem_cons_self
  | case2 arg args hescape => simp [leading, hescape, Opening.wrong]
  | case3 arg args w hw => cases h
  | case4 arg args i hword hi ih =>
    rw [List.cons_append, leading_of_item hi hword]
    exact List.mem_cons_of_mem i (ih h)
  | case5 arg name hneeds =>
    rw [List.cons_append, List.nil_append, leading_of_needsValue hneeds hoption]
    exact List.mem_singleton.mpr rfl
  | case6 arg name hneeds value args w hw ih =>
    have hvalue := isWord_of_shape hw
    obtain rfl := Shape.word.inj (hw.symm.trans hvalue)
    have hargs : (leading level args).command = none := by
      rw [Opening.afterValued] at h
      split_ifs at h <;> exact h
    have hmem := ih hargs
    rw [List.cons_append, List.cons_append, leading_of_needsValue_of_isWord hneeds hvalue,
      Opening.afterValued]
    split_ifs with hlate
    -- Only the items before the command may be late, and here is one that is not.
    · simp_all
    · exact List.mem_cons_of_mem _ hmem
  | case7 arg name hneeds value args hvalue =>
    rw [List.cons_append, List.cons_append, leading_of_needsValue hneeds (hvalue value)]
    exact List.mem_singleton.mpr rfl

/-! ### The line of an import

The two options of an import exclude each other. So it has to be known of the arguments before the
last option that they have given neither, which follows from the import that was accepted. -/

def importLevel : Level := { valued := [("file", none), ("line", none)] }

theorem commandLevel?_import : commandLevel? "import-key" = some (importLevel, 1) := rfl

theorem importLevel_read_line : importLevel.read "--line" = .needsValue "line" := by decide +kernel

theorem not_isWord_line : ¬ IsWord "--line" := by decide +kernel

/-- A command whose arguments are accepted has a name, a level and a draft from which it is made. -/
theorem exists_draft_of_read {command : Command} {args : List String}
    (h : Command.read name args = .ok command) :
    name ≠ "help" ∧ ∃ level arity d, commandLevel? name = some (level, arity) ∧
      gather (.command name) checkPath arity (items level args) {} = .ok d ∧
      Command.ofDraft? name d = some command := by
  unfold Command.read at h
  split_ifs at h with hhelp
  split at h
  · cases h
  · next level arity hlevel =>
    split at h
    · cases h
    · next d hd =>
      refine ⟨hhelp, level, arity, d, hlevel, hd, ?_⟩
      cases hcommand : Command.ofDraft? name d with
      | none =>
        rw [hcommand] at h
        cases h
      | some c =>
        rw [hcommand] at h
        rw [Except.ok.inj h]

/-- An import is made of one word and one of two options, and no other command is an import. -/
theorem ofDraft?_eq_importKey {source : KeySource}
    (h : Command.ofDraft? name d = some (.importKey key source)) :
    name = "import-key" ∧ d.words = [key] ∧
      ∀ text, source = .line text → d.value? "file" = none ∧ d.value? "line" = some text := by
  unfold Command.ofDraft? at h
  split at h
  · split_ifs at h <;> cases h
  · next hwords =>
    -- The import is the fifth of the commands with one word.
    split_ifs at h with _ _ _ _ hname
    · cases h
    · cases h
    · cases h
    · cases h
    · split at h
      · cases h
        exact ⟨hname, hwords, nofun⟩
      · next hfile hline =>
        cases h
        exact ⟨hname, hwords, fun _ htext => ⟨hfile, KeySource.line.inj htext ▸ hline⟩⟩
      · cases h
  · split_ifs at h <;> cases h
  · split_ifs at h
    cases h
  · cases h

/-- What the line of an import adds to what is gathered before. -/
theorem gather_line (text : String) :
    gather topic checkPath 1 (items importLevel ["--line", text]) d =
      if IsWord text ∧ d.value? "line" = none then
        .ok { d with valued := d.valued ++ [("line", text)] }
      else .error .usage := by
  by_cases htext : IsWord text
  · rw [items_of_needsValue_of_isWord importLevel_read_line htext]
    cases hline : d.value? "line" <;> simp [items, gather, checkPath, htext, hline]
  · rw [items_of_needsValue importLevel_read_line htext, if_neg fun h => htext h.1]
    rfl

theorem ofDraft?_line {text : String} (hwords : d.words = [key]) (hfile : d.value? "file" = none)
    (hline : d.value? "line" = none) :
    Command.ofDraft? "import-key" { d with valued := d.valued ++ [("line", text)] } =
      some (.importKey key (.line text)) := by
  rw [Draft.value?, Option.map_eq_none_iff] at hfile hline
  simp [Command.ofDraft?, hwords, Draft.value?, List.find?_append, hfile, hline]

/-- An import that is accepted with one line is accepted with any other that does
not look like an option. -/
theorem command_read_line {args : List String} {x : String} (v : String)
    (h : Command.read name (args ++ ["--line", x]) = .ok (.importKey key (.line x))) :
    Command.read name (args ++ ["--line", v]) =
      if IsWord v then .ok (.importKey key (.line v)) else .error .usage := by
  obtain ⟨hhelp, level, arity, d, hlevel, hgather, hdraft⟩ := exists_draft_of_read h
  obtain ⟨rfl, hwords, hvalues⟩ := ofDraft?_eq_importKey hdraft
  obtain ⟨rfl, rfl⟩ := Prod.mk.inj (Option.some.inj (commandLevel?_import.symm.trans hlevel))
  obtain ⟨hfile, -⟩ := hvalues x rfl
  have hitems : Trailing importLevel "--line" fun v => items importLevel (args ++ ["--line", v]) :=
    items_append not_isWord_line args
  cases hitems with
  | wrong hbad => exact absurd hgather (gather_ne_ok_of_bad (hbad x))
  | words is his =>
    -- An import has one word, which is the key.
    rw [his, gather_append] at hgather
    obtain ⟨earlier, -, hlater⟩ := bind_eq_ok_iff.mp hgather
    rw [gather_two_words] at hlater
    cases hlater
  | taken is his =>
    rw [his, gather_append] at hgather
    obtain ⟨earlier, hearlier, hlater⟩ := bind_eq_ok_iff.mp hgather
    rw [gather_line] at hlater
    split_ifs at hlater with hnone
    obtain rfl := Except.ok.inj hlater
    -- The line is added at the end, so the other option was there before it or not at all.
    have hfile : earlier.value? "file" = none := by
      rw [Draft.value?, Option.map_eq_none_iff, List.find?_append, Option.or_eq_none_iff] at hfile
      rw [Draft.value?, hfile.1, Option.map_none]
    have hread :
      gather (.command "import-key") checkPath 1 (is ++ items importLevel ["--line", v]) {} =
        if IsWord v then .ok { earlier with valued := earlier.valued ++ [("line", v)] }
        else .error .usage := by
      rw [gather_append, hearlier]
      exact gather_line v |>.trans (by simp only [hnone.2, and_true])
    simp only [Command.read, if_neg hhelp, commandLevel?_import, his, hread]
    split_ifs
    · simp only [ofDraft?_line (d := earlier) hwords hfile hnone.2, Option.elim_some]
    · rfl

/-! ### All arguments -/

variable {lookup : String → Option String} {o : Options}

theorem globalLevel_read_line : globalLevel.read "--line" = .item .bad := by decide +kernel

/-- An import that is accepted with one line is accepted with any other that does not look like an
option, and nothing else changes. -/
theorem read_importKey_line {x : String} (v : String)
    (h : Options.read lookup (front ++ ["--line", x]) = .ok o)
    (hcommand : o.command = .importKey key (.line x)) :
    Options.read lookup (front ++ ["--line", v]) =
      if IsWord v then .ok { o with command := .importKey key (.line v) } else .error .usage := by
  rw [Options.read] at h ⊢
  obtain ⟨d, hd, h⟩ := bind_eq_ok_iff.mp h
  obtain ⟨⟨name, args⟩, hopening, h⟩ := bind_eq_ok_iff.mp h
  obtain ⟨command, hread, h⟩ := bind_eq_ok_iff.mp h
  obtain ⟨late, hlate, h⟩ := bind_eq_ok_iff.mp h
  obtain rfl := Except.ok.inj h
  obtain rfl : command = .importKey key (.line x) := hcommand
  -- The line is an option of the command only, so the command has come before it.
  cases hfront : (leading globalLevel front).command with
  | none =>
    exact absurd hd
      (gather_ne_ok_of_bad (bad_mem_leading not_isWord_line globalLevel_read_line hfront))
  | some c =>
    obtain ⟨name', rest⟩ := c
    have hsome : (leading globalLevel front).command.isSome := by rw [hfront]; rfl
    rw [leading_append hsome, Opening.followedBy, hfront] at hd hopening hlate
    rw [leading_append hsome, Opening.followedBy, hfront]
    obtain ⟨rfl, rfl⟩ := Prod.mk.inj (Except.ok.inj hopening)
    simp only [Option.map_some, Option.elim_some, bind, Except.bind, hd, command_read_line v hread]
    split_ifs
    · simp only [hlate]
      rfl
    · rfl

end NodeAdmission.Admin
