import Mathlib.Data.List.Forall2
import Mathlib.Data.Set.Card
import NodeAdmission.Admission.Operation
import NodeAdmission.Proofs.Alike
import NodeAdmission.Proofs.Records

/-!
# Names are kept apart

A registry is used through operations, each of them under one name. A `Registry.Ledger` holds
what came of a sequence of calls: the registry, the challenges that were drawn and the answers
that were given, each with its name. What was done under other names makes no difference to a
name: its answers and its record are those of the calls under that name alone, and only which
challenges were drawn may differ.

1. `Ledger.Agrees` relates two ledgers on one name. A call under another name changes only the first
   of them and keeps this (`Agrees.other`), and so does the same call in both (`Agrees.same`). By
   induction on the calls, `agrees_ofCalls`.
2. The calls under a name tell whether it has a record (`Stays`) and whether that is verified
   (`Proven`). These are statements on the calls, with the last enrolment and what came behind it,
   and each has a lemma for one more call (`stays_concat_iff`, `proven_concat_iff`), which is
   compared with what the registry does in that call.
3. The two counts of a registry are the numbers of such names (`size_eq_ncard`,
   `verifiedCount_eq_ncard`).

Main statement: `names_kept_apart`.

Challenges cannot be compared by equality. A name that is used among others draws its challenges at
other turns of the generator, so the two answers are the same up to `SameDraw`.
-/

namespace NodeAdmission.Admission

namespace Registry

/-! ### Calls and ledgers

A call is an operation under a name, and a `Ledger` is what any calls leave behind. Challenges are
drawn by all names from one supply, which is the only thing the names have in common. -/

structure Call where
  name : String
  op : Operation
deriving DecidableEq

/-- Only the beginning of an attempt draws a challenge, and only if none is pending. -/
def Operation.draws : Operation → Option NodeRecord → Bool
  | .begin, some r => r.challenge?.isNone
  | _, _ => false

/-- A registry that was empty at first, with the challenges that were drawn since and the
answers that were given. -/
structure Ledger where
  registry : Registry := .empty
  draws : List (String × Challenge) := []
  answers : List (String × Answer) := []

namespace Ledger

/-- Performs a call, with the challenges in the order in which they are drawn. -/
def perform (challenges : Nat → Challenge) (l : Ledger) (call : Call) : Ledger :=
  let fresh := challenges l.draws.length
  { registry := l.registry.after fresh call.name call.op
    draws :=
      if call.op.draws (l.registry.get? call.name) then l.draws ++ [(call.name, fresh)] else l.draws
    answers := l.answers ++ [(call.name, l.registry.answer fresh call.name call.op)] }

def ofCalls (challenges : Nat → Challenge) (calls : List Call) : Ledger :=
  calls.foldl (perform challenges) {}

end Ledger

def under {α : Type} (name : String) (entries : List (String × α)) : List α :=
  (entries.filter (·.1 = name)).map Prod.snd

variable {K K' : Challenge → Challenge → Prop} {g g' : Registry} {name : String}
  {r r' : NodeRecord} {r? r'? : Option NodeRecord} {ch ch' fresh : Challenge} {op : Operation}
  {call : Call} {calls later : List Call} {challenges challenges' : Nat → Challenge}
  {l l' : Ledger}

section

variable {α : Type} {a : α} {entries : List (String × α)} {key : String}

theorem under_concat_self (h : key = name) :
    under name (entries ++ [(key, a)]) = under name entries ++ [a] := by
  simp [under, h]

theorem under_concat_other (h : key ≠ name) :
    under name (entries ++ [(key, a)]) = under name entries := by
  simp [under, h]

end

/-! ### One call -/

/-- What an operation makes of the record under its name, or of there being none. -/
def Operation.effect (fresh : Challenge) (name : String) :
    Operation → Option NodeRecord → Option NodeRecord
  | .enroll ip, r? => some (r?.getD (.new name ip))
  | .evict, _ => none
  | op, r? => r?.map (op.change fresh)

/-- An operation writes under its own name and nowhere else. -/
theorem puts_after (g : Registry) (fresh : Challenge) (name : String) (op : Operation) :
    g.Puts name (op.effect fresh name (g.get? name)) (g.after fresh name op) := by
  have hsame : ∀ r?, r? = g.get? name → g.Puts name r? g := by
    rintro _ rfl
    exact puts_get? g name
  -- A change under a name without a record is none.
  have hmodify : ∀ f : NodeRecord → NodeRecord,
      g.Puts name ((g.get? name).map f) (g.modify name f) := by
    intro f other
    rw [get?_modify]
    by_cases hne : other = name
    · rw [if_pos hne, if_pos hne, hne]
    · rw [if_neg hne, if_neg hne]
  cases op with
  | enroll ip => exact fun other => get?_enroll g name ip other
  | evict => exact puts_evict g name
  | get | elapsed => exact hsame _ Option.map_id'
  | begin | abandon | verify | exempt | move => exact hmodify _

/-- An enrolment under a name that has a record changes nothing. -/
theorem after_enroll_of_some (h : g.get? name = some r) (fresh : Challenge) (ip : String) :
    g.after fresh name (.enroll ip) = g := by
  have hpresent : ¬ g.get? name = none := by simp [h]
  exact dif_neg hpresent

/-- Only an eviction under its own name takes a record away or its being verified. -/
theorem exists_get?_after (h : g.get? name = some r) (hcall : call ≠ ⟨name, .evict⟩)
    (fresh : Challenge) :
    ∃ r', (g.after fresh call.name call.op).get? name = some r' ∧
      (r.verified = true → r'.verified = true) := by
  obtain ⟨other, op⟩ := call
  by_cases hname : name = other
  · subst hname
    rw [(puts_after g fresh name op).self, h]
    cases op with
    | evict => exact absurd rfl hcall
    | verify | exempt => exact ⟨_, rfl, fun _ => rfl⟩
    | _ => exact ⟨_, rfl, id⟩
  · rw [(puts_after g fresh other op).other hname]
    exact ⟨r, h, id⟩

/-! ### Answers that differ in their challenges -/

/-- The answers are the same but for challenges, which are related by `K`. -/
inductive Answer.Alike (K : Challenge → Challenge → Prop) : Answer → Answer → Prop
  | absent : Alike K .absent .absent
  | record {r r' : NodeRecord} (h : r.Alike K r') : Alike K (.record r) (.record r')
  | challenge {ch ch' : Challenge} (h : K ch ch') : Alike K (.challenge ch) (.challenge ch')
  | elapsed {b : Bool} : Alike K (.elapsed b) (.elapsed b)

theorem Answer.Alike.ofRecord? (h : Option.Rel (NodeRecord.Alike K) r? r'?) :
    Answer.Alike K (.ofRecord? r?) (.ofRecord? r'?) := by
  cases h with
  | none => exact .absent
  | some h => exact .record h

theorem Answer.Alike.mono {a a' : Answer} (h : Answer.Alike K a a')
    (hK : ∀ ch ch', K ch ch' → K' ch ch') : Answer.Alike K' a a' := by
  cases h with
  | absent => exact .absent
  | record h => exact .record (h.mono hK)
  | challenge h => exact .challenge (hK _ _ h)
  | elapsed => exact .elapsed

/-- A fresh challenge is looked at only if it is drawn. -/
theorem beginAttempt_alike (h : r.Alike K r') (hfresh : r.challenge?.isNone = true → K ch ch') :
    (r.beginAttempt ch).Alike K (r'.beginAttempt ch') := by
  have hchallenge := h.challenge
  cases hr : r.challenge? with
  | none => exact h.beginAttempt (hfresh (by rw [hr]; rfl))
  | some pending =>
    cases hr' : r'.challenge? with
    | none =>
      rw [hr, hr'] at hchallenge
      cases hchallenge
    | some pending' =>
      rw [NodeRecord.beginAttempt_of_some hr, NodeRecord.beginAttempt_of_some hr']
      exact h

theorem draws_eq (h : Option.Rel (NodeRecord.Alike K) r? r'?) (op : Operation) :
    op.draws r'? = op.draws r? := by
  cases h with
  | none => cases op <;> rfl
  | @some r r' h =>
    have hchallenge := h.challenge
    have hnone : r'.challenge?.isNone = r.challenge?.isNone := by
      generalize r.challenge? = ch? at hchallenge ⊢
      generalize r'.challenge? = ch'? at hchallenge ⊢
      cases hchallenge <;> rfl
    cases op with
    | begin => exact hnone
    | _ => rfl

/-- An operation makes alike records of alike ones. -/
theorem effect_alike (h : Option.Rel (NodeRecord.Alike K) r? r'?)
    (hfresh : op.draws r? = true → K ch ch') (name : String) :
    Option.Rel (NodeRecord.Alike K) (op.effect ch name r?) (op.effect ch' name r'?) := by
  cases h with
  | none =>
    cases op with
    | enroll ip => exact .some (.new name ip)
    | _ => exact .none
  | some h =>
    cases op with
    | evict => exact .none
    | enroll | get | elapsed => exact .some h
    | begin => exact .some (beginAttempt_alike h hfresh)
    | abandon now => exact .some (h.abandonAttempt now)
    | verify => exact .some h.markVerified
    | exempt => exact .some h.markExempt
    | move ip => exact .some (h.move ip)

/-- Of alike records an operation gives alike answers. -/
theorem answer_alike (h : Option.Rel (NodeRecord.Alike K) (g.get? name) (g'.get? name))
    (hfresh : op.draws (g.get? name) = true → K ch ch') :
    Answer.Alike K (g.answer ch name op) (g'.answer ch' name op) := by
  have hrecord : Answer.Alike K (.ofRecord? ((g.after ch name op).get? name))
      (.ofRecord? ((g'.after ch' name op).get? name)) := by
    rw [(puts_after g ch name op).self, (puts_after g' ch' name op).self]
    exact .ofRecord? (effect_alike h hfresh name)
  -- Most operations answer with the record that they leave.
  cases op with
  | enroll | get | abandon | verify | exempt | move => exact hrecord
  | evict => exact .ofRecord? h
  | begin =>
    unfold answer
    generalize g.get? name = r? at h hfresh ⊢
    generalize g'.get? name = r'? at h ⊢
    cases h with
    | none => exact .absent
    | some h =>
      have hbegun := (beginAttempt_alike h hfresh).challenge
      exact .challenge (Option.rel_some_some.mp hbegun)
  | elapsed now cooldown =>
    unfold answer
    generalize g.get? name = r? at h ⊢
    generalize g'.get? name = r'? at h ⊢
    cases h with
    | none => exact .absent
    | @some r r' h =>
      show Answer.Alike K (.elapsed (r.cooldownElapsed now cooldown))
        (.elapsed (r'.cooldownElapsed now cooldown))
      rw [h.cooldownElapsed]
      exact .elapsed

/-! ### One name among others

A call under the name and a call under another name keep the same relation between the two ledgers
(`Agrees.same`, `Agrees.other`): the first because alike records give alike answers, the second
because the record is not touched. -/

namespace Ledger

/-- The two challenges were drawn in the same place, counted among those that
were drawn for the name. -/
def SameDraw (name : String) (l l' : Ledger) (ch ch' : Challenge) : Prop :=
  (ch, ch') ∈ (under name l.draws).zip (under name l'.draws)

/-- The ledgers agree on a name, up to which challenges were drawn for it. -/
structure Agrees (name : String) (l l' : Ledger) : Prop where
  draws : (under name l.draws).length = (under name l'.draws).length
  answers : List.Forall₂ (Answer.Alike (SameDraw name l l')) (under name l.answers)
    (under name l'.answers)
  record : Option.Rel (NodeRecord.Alike (SameDraw name l l')) (l.registry.get? name)
    (l'.registry.get? name)

/-- A call under another name. -/
theorem Agrees.other (h : Agrees name l l') (hname : call.name ≠ name)
    (challenges : Nat → Challenge) : Agrees name (l.perform challenges call) l' := by
  have hdraws : under name (l.perform challenges call).draws = under name l.draws := by
    unfold perform
    dsimp only
    split_ifs
    · exact under_concat_other hname
    · rfl
  have hanswers : under name (l.perform challenges call).answers = under name l.answers :=
    under_concat_other hname
  have hrecord : (l.perform challenges call).registry.get? name = l.registry.get? name :=
    (puts_after l.registry _ call.name call.op).other (Ne.symm hname)
  -- What was drawn in the same place for the name is not touched.
  have hsame : SameDraw name (l.perform challenges call) l' = SameDraw name l l' := by
    unfold SameDraw
    rw [hdraws]
  refine ⟨?_, ?_, ?_⟩
  · rw [hdraws]
    exact h.draws
  · rw [hsame, hanswers]
    exact h.answers
  · rw [hsame, hrecord]
    exact h.record

theorem under_draws_perform (challenges : Nat → Challenge) (l : Ledger) (name : String)
    (op : Operation) :
    under name (l.perform challenges ⟨name, op⟩).draws = under name l.draws ++
      if op.draws (l.registry.get? name) then [challenges l.draws.length] else [] := by
  unfold perform
  dsimp only
  split_ifs
  · exact under_concat_self rfl
  · rw [List.append_nil]

theorem under_answers_perform (challenges : Nat → Challenge) (l : Ledger) (name : String)
    (op : Operation) :
    under name (l.perform challenges ⟨name, op⟩).answers = under name l.answers ++
      [l.registry.answer (challenges l.draws.length) name op] :=
  under_concat_self rfl

theorem get?_perform (challenges : Nat → Challenge) (l : Ledger) (name : String) (op : Operation) :
    (l.perform challenges ⟨name, op⟩).registry.get? name =
      op.effect (challenges l.draws.length) name (l.registry.get? name) :=
  (puts_after l.registry _ name op).self

/-- The same call under the name. -/
theorem Agrees.same (h : Agrees name l l') (op : Operation)
    (challenges challenges' : Nat → Challenge) :
    Agrees name (l.perform challenges ⟨name, op⟩) (l'.perform challenges' ⟨name, op⟩) := by
  have hdraws := under_draws_perform challenges l name op
  have hdraws' := under_draws_perform challenges' l' name op
  rw [draws_eq h.record op] at hdraws'
  -- Both draw or neither does, so what was drawn in the same place before still is.
  have hzip : (under name (l.perform challenges ⟨name, op⟩).draws).zip
      (under name (l'.perform challenges' ⟨name, op⟩).draws) =
      (under name l.draws).zip (under name l'.draws) ++
        if op.draws (l.registry.get? name) then
          [(challenges l.draws.length, challenges' l'.draws.length)] else [] := by
    rw [hdraws, hdraws', List.zip_append h.draws]
    split_ifs <;> rfl
  have hmono : ∀ ch ch', SameDraw name l l' ch ch' →
      SameDraw name (l.perform challenges ⟨name, op⟩)
        (l'.perform challenges' ⟨name, op⟩) ch ch' := by
    intro ch ch' hsame
    unfold SameDraw
    rw [hzip]
    exact List.mem_append_left _ hsame
  have hfresh : op.draws (l.registry.get? name) = true →
      SameDraw name (l.perform challenges ⟨name, op⟩) (l'.perform challenges' ⟨name, op⟩)
        (challenges l.draws.length) (challenges' l'.draws.length) := by
    intro hdrawn
    unfold SameDraw
    rw [hzip, if_pos hdrawn]
    exact List.mem_append_right _ List.mem_cons_self
  have hrecord := rel_mono h.record fun _ _ hr => hr.mono hmono
  refine ⟨?_, ?_, ?_⟩
  · rw [hdraws, hdraws', List.length_append, List.length_append, h.draws]
    split_ifs <;> rfl
  · rw [under_answers_perform, under_answers_perform]
    exact List.rel_append (h.answers.imp fun _ _ ha => ha.mono hmono)
      (.cons (answer_alike hrecord hfresh) .nil)
  · rw [get?_perform, get?_perform]
    exact effect_alike hrecord hfresh name

/-- Under every name a ledger agrees with that of the calls under the name alone. -/
theorem agrees_ofCalls (name : String) (challenges challenges' : Nat → Challenge)
    (calls : List Call) :
    Agrees name (ofCalls challenges calls)
      (ofCalls challenges' (calls.filter (·.name = name))) := by
  -- From any ledgers that agree, since the induction changes where both begin.
  have hstep : ∀ l l', Agrees name l l' → Agrees name (calls.foldl (perform challenges) l)
      ((calls.filter (·.name = name)).foldl (perform challenges') l') := by
    induction calls with
    | nil => exact fun _ _ h => h
    | cons call calls ih =>
      intro l l' h
      by_cases hname : call.name = name
      · obtain ⟨other, op⟩ := call
        obtain rfl : other = name := hname
        rw [List.filter_cons_of_pos (by simp), List.foldl_cons, List.foldl_cons]
        exact ih _ _ (h.same op challenges challenges')
      · rw [List.filter_cons_of_neg (by simpa using hname), List.foldl_cons]
        exact ih _ _ (h.other hname challenges)
  exact hstep _ _ ⟨rfl, .nil, .none⟩

theorem ofCalls_concat (challenges : Nat → Challenge) (calls : List Call) (call : Call) :
    ofCalls challenges (calls ++ [call]) = (ofCalls challenges calls).perform challenges call :=
  List.foldl_concat _ _ _ _

end Ledger

/-! ### What the calls under a name tell

The registry is left out of these definitions, so that they say of the calls alone what the counts
should be. A statement about the last enrolment is awkward to unfold; the lemmas on one more call
turn it into a recursion. -/

/-- The last enrolment under the name was not followed by an eviction. -/
def Stays (calls : List Call) (name : String) : Prop :=
  ∃ earlier ip later, calls = earlier ++ ⟨name, .enroll ip⟩ :: later ∧
    (∀ ip, ⟨name, .enroll ip⟩ ∉ later) ∧ ⟨name, .evict⟩ ∉ later

/-- The record under the name was made by the enrolment after which `later` was called. -/
def MadeBefore (calls : List Call) (name : String) (later : List Call) : Prop :=
  ∃ earlier ip, calls = earlier ++ ⟨name, .enroll ip⟩ :: later ∧ ¬ Stays earlier name ∧
    ⟨name, .evict⟩ ∉ later

/-- The node was verified or exempted since the enrolment that made its record. -/
def Proven (calls : List Call) (name : String) : Prop :=
  ∃ later, MadeBefore calls name later ∧ (⟨name, .verify⟩ ∈ later ∨ ⟨name, .exempt⟩ ∈ later)

/-- The last of some calls stands behind a call among them, or is that call. -/
theorem concat_eq_append_cons_iff {x : Call} {earlier : List Call} :
    calls ++ [call] = earlier ++ x :: later ↔
      earlier = calls ∧ x = call ∧ later = [] ∨
        ∃ later', later = later' ++ [call] ∧ calls = earlier ++ x :: later' := by
  constructor
  · intro h
    rcases List.eq_nil_or_concat' later with rfl | ⟨later', y, rfl⟩
    · obtain ⟨rfl, hx⟩ := List.append_inj' h rfl
      exact .inl ⟨rfl, (List.cons.inj hx).1.symm, rfl⟩
    · have h' : calls ++ [call] = (earlier ++ x :: later') ++ [y] := by simpa using h
      obtain ⟨hcalls, hy⟩ := List.append_inj' h' rfl
      exact .inr ⟨later', by rw [(List.cons.inj hy).1], hcalls⟩
  · rintro (⟨rfl, rfl, rfl⟩ | ⟨later', rfl, rfl⟩)
    · rfl
    · simp

theorem not_stays_nil : ¬ Stays [] name := by
  rintro ⟨earlier, ip, later, h, -⟩
  simp at h

/-- One more call: an enrolment makes a record, an eviction takes it away. -/
theorem stays_concat_iff :
    Stays (calls ++ [call]) name ↔
      (∃ ip, call = ⟨name, .enroll ip⟩) ∨ call ≠ ⟨name, .evict⟩ ∧ Stays calls name := by
  constructor
  · rintro ⟨earlier, ip, later, h, henroll, hevict⟩
    -- The enrolment is the call that was added, or one of those before it.
    rcases concat_eq_append_cons_iff.mp h with ⟨-, hcall, -⟩ | ⟨later', rfl, hcalls⟩
    · exact .inl ⟨ip, hcall.symm⟩
    · simp only [List.mem_append, List.mem_singleton, not_or] at henroll hevict
      exact .inr ⟨Ne.symm hevict.2, earlier, ip, later', hcalls, fun ip => (henroll ip).1, hevict.1⟩
  · intro h
    by_cases hcall : ∃ ip, call = ⟨name, .enroll ip⟩
    · obtain ⟨ip, rfl⟩ := hcall
      exact ⟨calls, ip, [], rfl, fun _ => List.not_mem_nil, List.not_mem_nil⟩
    · obtain ⟨hevict, earlier, ip, later, rfl, henroll, hstays⟩ := h.resolve_left hcall
      refine ⟨earlier, ip, later ++ [call], by simp, fun ip hmem => ?_, fun hmem => ?_⟩
      · rcases List.mem_append.mp hmem with hmem | hmem
        · exact henroll ip hmem
        · exact hcall ⟨ip, (List.mem_singleton.mp hmem).symm⟩
      · rcases List.mem_append.mp hmem with hmem | hmem
        · exact hstays hmem
        · exact hevict (List.mem_singleton.mp hmem).symm

/-- One more call: it makes the record itself, or the record was made before. -/
theorem madeBefore_concat_iff :
    MadeBefore (calls ++ [call]) name later ↔
      (∃ ip, call = ⟨name, .enroll ip⟩) ∧ ¬ Stays calls name ∧ later = [] ∨
        ∃ later', later = later' ++ [call] ∧ call ≠ ⟨name, .evict⟩ ∧
          MadeBefore calls name later' := by
  constructor
  · rintro ⟨earlier, ip, h, hnew, hevict⟩
    rcases concat_eq_append_cons_iff.mp h with ⟨rfl, hcall, rfl⟩ | ⟨later', rfl, hcalls⟩
    · exact .inl ⟨⟨ip, hcall.symm⟩, hnew, rfl⟩
    · simp only [List.mem_append, List.mem_singleton, not_or] at hevict
      exact .inr ⟨later', rfl, Ne.symm hevict.2, earlier, ip, hcalls, hnew, hevict.1⟩
  · rintro (⟨⟨ip, rfl⟩, hnew, rfl⟩ | ⟨later', rfl, hcall, earlier, ip, rfl, hnew, hevict⟩)
    · exact ⟨calls, ip, rfl, hnew, List.not_mem_nil⟩
    · refine ⟨earlier, ip, by simp, hnew, fun hmem => ?_⟩
      rcases List.mem_append.mp hmem with hmem | hmem
      · exact hevict hmem
      · exact hcall (List.mem_singleton.mp hmem).symm

/-- Who has a record has one that was made. -/
theorem exists_madeBefore (h : Stays calls name) : ∃ later, MadeBefore calls name later := by
  induction calls using List.reverseRecOn with
  | nil => exact absurd h not_stays_nil
  | append_singleton calls call ih =>
    -- The last call made the record, or the record was there before.
    by_cases hstays : Stays calls name
    · obtain ⟨later, hlater⟩ := ih hstays
      have hcall : call ≠ ⟨name, .evict⟩ := by
        rintro rfl
        rcases stays_concat_iff.mp h with ⟨ip, hcall⟩ | ⟨hcall, -⟩
        · cases hcall
        · exact hcall rfl
      exact ⟨later ++ [call], madeBefore_concat_iff.mpr (.inr ⟨later, rfl, hcall, hlater⟩)⟩
    · have hcall := (stays_concat_iff.mp h).resolve_right fun h => hstays h.2
      exact ⟨[], madeBefore_concat_iff.mpr (.inl ⟨hcall, hstays, rfl⟩)⟩

/-- A record that was made and not evicted is there. -/
theorem MadeBefore.stays (h : MadeBefore calls name later) : Stays calls name := by
  induction calls using List.reverseRecOn generalizing later with
  | nil =>
    obtain ⟨earlier, ip, hcalls, -⟩ := h
    simp at hcalls
  | append_singleton calls call ih =>
    rcases madeBefore_concat_iff.mp h with ⟨hcall, -⟩ | ⟨later', -, hcall, hmade⟩
    · exact stays_concat_iff.mpr (.inl hcall)
    · exact stays_concat_iff.mpr (.inr ⟨hcall, ih hmade⟩)

theorem not_proven_nil : ¬ Proven [] name := by
  rintro ⟨later, ⟨earlier, ip, h, -⟩, -⟩
  simp at h

/-- One more call: it proves a name that has a record, or the name was proven before. -/
theorem proven_concat_iff :
    Proven (calls ++ [call]) name ↔ call ≠ ⟨name, .evict⟩ ∧
      (Proven calls name ∨
        Stays calls name ∧ (call = ⟨name, .verify⟩ ∨ call = ⟨name, .exempt⟩)) := by
  constructor
  · rintro ⟨later, hmade, hproof⟩
    rcases madeBefore_concat_iff.mp hmade with ⟨-, -, rfl⟩ | ⟨later', rfl, hcall, hmade'⟩
    · simp at hproof
    · simp only [List.mem_append, List.mem_singleton] at hproof
      refine ⟨hcall, ?_⟩
      -- The proof is one of the earlier calls, or it is the call that was added.
      rcases hproof with (hproof | hproof) | (hproof | hproof)
      · exact .inl ⟨later', hmade', .inl hproof⟩
      · exact .inr ⟨hmade'.stays, .inl hproof.symm⟩
      · exact .inl ⟨later', hmade', .inr hproof⟩
      · exact .inr ⟨hmade'.stays, .inr hproof.symm⟩
  · rintro ⟨hcall, ⟨later, hmade, hproof⟩ | ⟨hstays, hproof⟩⟩
    · exact ⟨later ++ [call], madeBefore_concat_iff.mpr (.inr ⟨later, rfl, hcall, hmade⟩),
        hproof.imp (List.mem_append_left _) (List.mem_append_left _)⟩
    · obtain ⟨later, hmade⟩ := exists_madeBefore hstays
      refine ⟨later ++ [call], madeBefore_concat_iff.mpr (.inr ⟨later, rfl, hcall, hmade⟩), ?_⟩
      exact hproof.imp (by rintro rfl; simp) (by rintro rfl; simp)

/-- The same for the registry: which calls leave a record under a name. -/
theorem recorded_after_iff (g : Registry) (fresh : Challenge) :
    (∃ r, (g.after fresh call.name call.op).get? name = some r) ↔
      (∃ ip, call = ⟨name, .enroll ip⟩) ∨ call ≠ ⟨name, .evict⟩ ∧ ∃ r, g.get? name = some r := by
  obtain ⟨key, op⟩ := call
  by_cases hname : name = key
  · subst hname
    rw [(puts_after g fresh name op).self]
    cases op <;> simp [Operation.effect]
  · rw [(puts_after g fresh key op).other hname]
    simp [Ne.symm hname]

/-- And which leave a verified one. -/
theorem verified_after_iff (g : Registry) (fresh : Challenge) :
    (∃ r, (g.after fresh call.name call.op).get? name = some r ∧ r.verified = true) ↔
      call ≠ ⟨name, .evict⟩ ∧ ((∃ r, g.get? name = some r ∧ r.verified = true) ∨
        (∃ r, g.get? name = some r) ∧ (call = ⟨name, .verify⟩ ∨ call = ⟨name, .exempt⟩)) := by
  obtain ⟨key, op⟩ := call
  by_cases hname : name = key
  · subst hname
    rw [(puts_after g fresh name op).self]
    cases g.get? name with
    | none => cases op <;> simp [Operation.effect, NodeRecord.new]
    | some r =>
      cases op <;> simp [Operation.effect, Operation.change, NodeRecord.beginAttempt,
        NodeRecord.abandonAttempt, NodeRecord.markVerified, NodeRecord.markExempt]
  · rw [(puts_after g fresh key op).other hname]
    simp [Ne.symm hname]

namespace Ledger

/-- The registry has the records that the calls tell. -/
theorem recorded_iff_stays (challenges : Nat → Challenge) (calls : List Call) (name : String) :
    (∃ r, (ofCalls challenges calls).registry.get? name = some r) ↔ Stays calls name := by
  induction calls using List.reverseRecOn with
  | nil => exact ⟨nofun, fun h => absurd h not_stays_nil⟩
  | append_singleton calls call ih =>
    rw [ofCalls_concat, stays_concat_iff, ← ih]
    exact recorded_after_iff _ _

/-- It has verified those that the calls tell. -/
theorem verified_iff_proven (challenges : Nat → Challenge) (calls : List Call) (name : String) :
    (∃ r, (ofCalls challenges calls).registry.get? name = some r ∧ r.verified = true) ↔
      Proven calls name := by
  induction calls using List.reverseRecOn with
  | nil => exact ⟨nofun, fun h => absurd h not_proven_nil⟩
  | append_singleton calls call ih =>
    rw [ofCalls_concat, proven_concat_iff, ← ih, ← recorded_iff_stays challenges calls name]
    exact verified_after_iff _ _

end Ledger

/-! ### The counts

The registry counts its entries. As every entry has its own name, that is the number of names with a
record, and which names these are is told by the calls. -/

/-- The names of a property are counted by a list of them without repetitions. -/
theorem ncard_eq_length {names : List String} (hnodup : names.Nodup) {p : String → Prop}
    (hp : ∀ name, p name ↔ name ∈ names) : {name | p name}.ncard = names.length := by
  have hset : {name | p name} = (names.toFinset : Set String) := by
    ext name
    simp [hp]
  rw [hset, Set.ncard_coe_finset, List.toFinset_card_of_nodup hnodup]

theorem size_eq_ncard (g : Registry) : g.size = {name | ∃ r, g.get? name = some r}.ncard := by
  rw [ncard_eq_length g.nodup fun name => mem_names_iff.symm]
  exact (List.length_map _).symm

theorem mem_of_find {entries : List (String × NodeRecord)} (h : find name entries = some r) :
    (name, r) ∈ entries := by
  induction entries with
  | nil => cases h
  | cons e entries ih =>
    obtain ⟨key, s⟩ := e
    unfold find at h
    split_ifs at h with hkey
    · obtain rfl := Option.some.inj h
      rw [hkey]
      exact List.mem_cons_self
    · exact List.mem_cons_of_mem _ (ih h)

theorem mem_entries_iff : (name, r) ∈ g.entries ↔ g.get? name = some r :=
  ⟨get?_of_mem, mem_of_find⟩

theorem verifiedCount_eq_ncard (g : Registry) :
    g.verifiedCount = {name | ∃ r, g.get? name = some r ∧ r.verified = true}.ncard := by
  let names := (g.entries.filter (·.2.verified)).map Prod.fst
  have hnodup : names.Nodup := g.nodup.sublist (List.filter_sublist.map _)
  have hnames : ∀ name, (∃ r, g.get? name = some r ∧ r.verified = true) ↔ name ∈ names := by
    simp [names, mem_entries_iff]
  rw [ncard_eq_length hnodup hnames, List.length_map, ← List.countP_eq_length_filter]
  rfl

/-- Whatever is done under other names, the answers that are given under a name and its record in
the end are those of the calls under that name alone, up to which challenges were drawn. An
enrolment of a name that has a record answers that record and changes nothing, and only an eviction
takes a record away or its being verified. The registry has as many records as there are names whose
last enrolment was not followed by an eviction, and as many verified ones as there are names that
were verified or exempted since their records were made. -/
theorem names_kept_apart (challenges challenges' : Nat → Challenge) (calls : List Call) :
    let l := Ledger.ofCalls challenges calls
    (∀ name, l.Agrees name (Ledger.ofCalls challenges' (calls.filter (·.name = name)))) ∧
      (∀ name r, l.registry.get? name = some r →
        (∀ fresh ip, l.registry.after fresh name (.enroll ip) = l.registry ∧
          l.registry.answer fresh name (.enroll ip) = .record r) ∧
        ∀ fresh (call : Call), call ≠ ⟨name, .evict⟩ →
          ∃ r', (l.registry.after fresh call.name call.op).get? name = some r' ∧
            (r.verified = true → r'.verified = true)) ∧
      l.registry.size = {name | Stays calls name}.ncard ∧
      l.registry.verifiedCount = {name | Proven calls name}.ncard := by
  intro l
  refine ⟨?_, ?_, ?_, ?_⟩
  · exact fun name => Ledger.agrees_ofCalls name challenges challenges' calls
  · intro name r hr
    refine ⟨fun fresh ip => ?_, fun fresh call hcall => exists_get?_after hr hcall fresh⟩
    -- The name has a record, so nothing is added.
    have hsame := after_enroll_of_some hr fresh ip
    refine ⟨hsame, ?_⟩
    show Answer.ofRecord? ((l.registry.after fresh name (.enroll ip)).get? name) = .record r
    rw [hsame, hr]
    rfl
  · simp only [size_eq_ncard, l, Ledger.recorded_iff_stays]
  · simp only [verifiedCount_eq_ncard, l, Ledger.verified_iff_proven]

end Registry
end NodeAdmission.Admission
