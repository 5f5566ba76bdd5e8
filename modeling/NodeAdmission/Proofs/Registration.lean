import Mathlib.Data.List.Induction
import NodeAdmission.Proofs.RemoteAnswers

/-!
# Whether a client is registered

A client of the crypto service remembers whether its identity is registered. What it remembers
follows from the operations that were performed and what came of them, and of these only the last
one counts that registered or removed an identity with success.

* `after_error`, `after_of_other` — an operation that fails, at whatever stage, changes nothing, and
  neither does any other operation.
* `send_of_change` — a registration or a removal succeeds by the status alone, since
  nothing is read of its answer.
* `performAll_eq_foldl` — what a client remembers is a fold over what was performed.
* `lastRegisters_concat`, `foldl_afterPerformed_registered_iff` — the last change, by
  induction from the end of the history: one more operation is a change itself, or the last
  change is the one before.
* `registered_iff_last_change` — the main statement.
-/

namespace NodeAdmission.Crypto.Client

open Http (Exchange RemoteError)

structure Performed where
  operation : Operation
  result : Except RemoteError Result
deriving DecidableEq

def afterPerformed (c : Client) (p : Performed) : Client := c.after p.operation p.result

/-- Performs operations one after another, and tells what came of each. -/
def performAll [Monad m] (c : Client) (exchange : Exchange m) :
    List Operation → m (List Performed × Client)
  | [] => return ([], c)
  | op :: ops => do
    let (result, c') ← c.perform exchange op
    let (performed, c'') ← c'.performAll exchange ops
    return (⟨op, result⟩ :: performed, c'')

namespace Performed

def Registers (p : Performed) : Prop := ∃ name result, p = ⟨.register name, .ok result⟩

def Removes (p : Performed) : Prop := ∃ name result, p = ⟨.remove name, .ok result⟩

def LastRegisters (ps : List Performed) : Prop :=
  ∃ earlier p later, ps = earlier ++ p :: later ∧ p.Registers ∧
    ∀ q ∈ later, ¬ q.Registers ∧ ¬ q.Removes

variable {p : Performed} {ps : List Performed}

theorem not_lastRegisters_nil : ¬ LastRegisters [] := by
  rintro ⟨earlier, p, later, h, -⟩
  simp at h

/-- Whether the last change is a registration is told by the last operation,
if it changes anything. -/
theorem lastRegisters_concat :
    LastRegisters (ps ++ [p]) ↔ p.Registers ∨ LastRegisters ps ∧ ¬ p.Registers ∧ ¬ p.Removes := by
  constructor
  · rintro ⟨earlier, q, later, h, hq, hlater⟩
    -- The registration is the last operation itself, or something comes behind it.
    rcases List.eq_nil_or_concat later with rfl | ⟨later, r, rfl⟩
    · obtain ⟨-, hlast⟩ := List.append_inj' h rfl
      obtain rfl := (List.cons.inj hlast).1
      exact .inl hq
    · rw [List.concat_eq_append] at h hlater
      rw [← List.cons_append, ← List.append_assoc] at h
      obtain ⟨rfl, hlast⟩ := List.append_inj' h rfl
      obtain rfl := (List.cons.inj hlast).1
      obtain ⟨hquiet, hr⟩ := List.forall_mem_append.mp hlater
      exact .inr ⟨⟨earlier, q, later, rfl, hq, hquiet⟩, hr p (List.mem_singleton_self p)⟩
  · rintro (hp | ⟨⟨earlier, q, later, rfl, hq, hlater⟩, hp⟩)
    · exact ⟨ps, p, [], rfl, hp, by simp⟩
    · refine ⟨earlier, q, later ++ [p], by simp, hq, ?_⟩
      exact List.forall_mem_append.mpr ⟨hlater, List.forall_mem_singleton.mpr hp⟩

end Performed

variable {ω : Type} {exchange : Exchange (Timed ω)} {c : Client} {p : Performed}
    {ps : List Performed}
  {now : Instant} {w : ω}

/-! ### One operation -/

theorem afterPerformed_of_registers (h : p.Registers) : (c.afterPerformed p).registered = true := by
  obtain ⟨name, result, rfl⟩ := h
  rfl

theorem afterPerformed_of_removes (h : p.Removes) : (c.afterPerformed p).registered = false := by
  obtain ⟨name, result, rfl⟩ := h
  rfl

theorem after_error (op : Operation) (e : RemoteError) : c.after op (.error e) = c := by
  cases op <;> rfl

/-- An operation that neither registers nor removes leaves it as it is, too. -/
theorem after_of_other {op : Operation} (h : ∀ name, op ≠ .register name ∧ op ≠ .remove name)
    (result : Except RemoteError Result) : c.after op result = c := by
  cases op with
  | register name => exact absurd rfl (h name).1
  | remove name => exact absurd rfl (h name).2
  | _ => rfl

/-- Whatever neither registers nor removes an identity leaves the client as it is. -/
theorem afterPerformed_of_neither (hregisters : ¬ p.Registers) (hremoves : ¬ p.Removes) :
    c.afterPerformed p = c := by
  obtain ⟨op, result⟩ := p
  cases result with
  | error e => exact after_error op e
  | ok a =>
    refine after_of_other (fun name => ⟨?_, ?_⟩) _
    · rintro rfl
      exact hregisters ⟨name, a, rfl⟩
    · rintro rfl
      exact hremoves ⟨name, a, rfl⟩

/-- A registration or a removal succeeds if it is answered with status 200,
whatever else is answered. -/
theorem send_of_change {op : Operation} (h : ∃ name, op = .register name ∨ op = .remove name) :
    (∃ a, (c.send exchange op now w).value = .ok a) ↔
      ∃ url response, (c.callOf op).destination = .ok url ∧
        (exchange ((c.callOf op).request url) now w).value = .answered response ∧
          response.status = 200 := by
  -- Neither of the two looks at the body of the answer.
  obtain ⟨hsettle, hread⟩ :
      settle op = id ∧ ∀ response, ∃ a, (c.callOf op).read response = .ok a := by
    obtain ⟨name, rfl | rfl⟩ := h
    · exact ⟨rfl, fun response => ⟨_, rfl⟩⟩
    · exact ⟨rfl, fun response => ⟨_, rfl⟩⟩
  rw [c.send_eq, Timed.map_apply, hsettle]
  constructor
  · rintro ⟨a, ha⟩
    obtain ⟨url, response, hurl, hreply, hstatus, -⟩ := Http.Call.answered_of_perform ha
    exact ⟨url, response, hurl, hreply, hstatus⟩
  · rintro ⟨url, response, hurl, hreply, hstatus⟩
    obtain ⟨a, ha⟩ := hread response
    refine ⟨a, (Http.Call.perform_of_destination hurl now w).trans ?_⟩
    exact Http.Call.conclude_eq_ok_iff.mpr ⟨response, hreply, hstatus, ha⟩

/-! ### All operations -/

/-- The client is registered by the last change, or it was before and nothing changed. -/
theorem foldl_afterPerformed_registered_iff :
    (ps.foldl afterPerformed c).registered = true ↔
      Performed.LastRegisters ps ∨ c.registered = true ∧ ∀ p ∈ ps, ¬ p.Registers ∧ ¬ p.Removes := by
  induction ps using List.reverseRecOn with
  | nil => simp [Performed.not_lastRegisters_nil]
  | append_singleton ps p ih =>
    rw [List.foldl_append, List.foldl_cons, List.foldl_nil, Performed.lastRegisters_concat,
      List.forall_mem_append, List.forall_mem_singleton]
    by_cases hregisters : p.Registers
    · simp [afterPerformed_of_registers hregisters, hregisters]
    · by_cases hremoves : p.Removes
      · simp [afterPerformed_of_removes hremoves, hregisters, hremoves]
      · rw [afterPerformed_of_neither hregisters hremoves, ih]
        simp [hregisters, hremoves]

/-- Every operation is performed once, in order, and leaves what it tells. -/
theorem performAll_eq_foldl (c : Client) (exchange : Exchange (Timed ω)) (ops : List Operation)
    (now : Instant) (w : ω) :
    let r := (c.performAll exchange ops now w).value
    r.1.map Performed.operation = ops ∧ r.2 = r.1.foldl afterPerformed c := by
  induction ops generalizing c now w with
  | nil => exact ⟨rfl, rfl⟩
  | cons op ops ih =>
    let first := c.perform exchange op now w
    obtain ⟨hops, hlast⟩ := ih first.value.2 (now + first.elapsed) first.world
    exact ⟨congrArg (op :: ·) hops, hlast⟩

/-- What a new client remembers after any operations, whatever the crypto service does in each of
them. It takes itself for registered just if some operation registered an identity, and after the
last one that did none removed one. An operation that fails leaves the client as it is, and so does
every operation that neither registers nor removes an identity. Those two succeed just if the crypto
service answers with status 200. -/
theorem registered_iff_last_change (url : String) (timeout : Duration)
    (exchange : Exchange (Timed ω))
    (ops : List Operation) (now : Instant) (w : ω) :
    let r := ((Client.new url timeout).performAll exchange ops now w).value
    r.1.map Performed.operation = ops ∧
    (r.2.registered = true ↔
      ∃ earlier p later, r.1 = earlier ++ p :: later ∧ p.Registers ∧
        ∀ q ∈ later, ¬ q.Registers ∧ ¬ q.Removes) ∧
    ∀ (c : Client) (op : Operation) (now : Instant) (w : ω),
      let s := (c.perform exchange op now w).value
      (∀ e, s.1 = .error e → s.2 = c) ∧
      ((∀ name, op ≠ .register name ∧ op ≠ .remove name) → s.2 = c) ∧
      ((∃ name, op = .register name ∨ op = .remove name) → ((∃ a, s.1 = .ok a) ↔
        ∃ url response, (c.callOf op).destination = .ok url ∧
          (exchange ((c.callOf op).request url) now w).value = .answered response ∧
          response.status = 200)) := by
  intro r
  obtain ⟨hops, hclient⟩ := (Client.new url timeout).performAll_eq_foldl exchange ops now w
  refine ⟨hops, ?_, ?_⟩
  · -- A new client is not registered, so a registration must have been among the operations.
    rw [hclient, foldl_afterPerformed_registered_iff]
    exact or_iff_left fun h => Bool.false_ne_true h.1
  · intro c op now w s
    refine ⟨fun e he => ?_, fun hop => after_of_other hop _, send_of_change⟩
    have hs : s.2 = c.after op s.1 := rfl
    rw [hs, he, after_error]

/-! ### A removal that fails -/

/-- A crypto service that gives prepared replies, one after another, and then cannot be reached. -/
def scripted : Exchange (Timed (List Http.Reply)) := fun _ _ replies =>
  match replies with
  | [] => ⟨.failed .connect, 0, []⟩
  | reply :: replies => ⟨reply, 0, replies⟩

theorem Performed.neither_of_error (op : Operation) (e : RemoteError) :
    ¬ (⟨op, .error e⟩ : Performed).Registers ∧ ¬ (⟨op, .error e⟩ : Performed).Removes := by
  constructor <;> rintro ⟨name, result, h⟩ <;> cases h

/-- A registration succeeds although its answer is cut short. The client stays registered when its
removal is refused or does not arrive, and whatever comes of listing its keys. -/
theorem refused_removal_stays_registered :
    let client : Client := .new "http://[::1]:8300" (.ofSecs 10)
    let replies : List Http.Reply :=
      [.answered ⟨200, [], false⟩, .answered ⟨503, [], true⟩, .failed .timeout]
    let r := (client.performAll scripted
      [.register "NodeAuthServer", .remove "NodeAuthServer",
        .listKeys "NodeAuthServer"] 0 replies).value
    let registered : Client := { client with registered := true }
    r.2.registered = true ∧
      (∃ a, (client.perform scripted (.register "NodeAuthServer") 0 replies).value.1 = .ok a) ∧
      (registered.perform scripted (.remove "NodeAuthServer") 0 []).value.2 = registered ∧
      (registered.perform scripted (.listKeys "NodeAuthServer") 0 replies).value.2 =
        registered := by
  intro client replies r registered
  obtain ⟨-, hiff, hone⟩ := registered_iff_last_change "http://[::1]:8300" (.ofSecs 10) scripted
    [.register "NodeAuthServer", .remove "NodeAuthServer", .listKeys "NodeAuthServer"] 0 replies
  -- What comes of the three operations, by the replies that are scripted.
  have hhistory : r.1 = [⟨.register "NodeAuthServer", .ok .done⟩,
      ⟨.remove "NodeAuthServer", .error (.unexpectedStatus 503 "")⟩,
      ⟨.listKeys "NodeAuthServer",
        .error (.transport ⟨.timeout, some "http://[::1]:8300/keys"⟩)⟩] := by
    decide +kernel
  have hsent :
      ((client.callOf (.register "NodeAuthServer")).destination).toOption.isSome = true := by
    decide +kernel
  have hunreachable : (registered.perform scripted (.remove "NodeAuthServer") 0 []).value.1 =
      .error (.transport ⟨.connect, some "http://[::1]:8300/client"⟩) := by
    decide +kernel
  refine ⟨hiff.mpr ⟨[], _, _, hhistory, ⟨_, _, rfl⟩, ?_⟩, ?_, ?_, ?_⟩
  · exact List.forall_mem_cons.mpr ⟨Performed.neither_of_error _ _,
      List.forall_mem_singleton.mpr (Performed.neither_of_error _ _)⟩
  · refine ((hone client _ 0 replies).2.2 ⟨_, .inl rfl⟩).mpr ?_
    cases hurl : (client.callOf (.register "NodeAuthServer")).destination with
    | error failure =>
      rw [hurl] at hsent
      cases hsent
    | ok url => exact ⟨url, _, rfl, rfl, rfl⟩
  · exact (hone registered _ 0 []).1 _ hunreachable
  · exact (hone registered _ 0 replies).2.1 fun name => ⟨nofun, nofun⟩

end NodeAdmission.Crypto.Client
