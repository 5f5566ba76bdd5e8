import NodeAdmission.Admission.Verification
import NodeAdmission.Proofs.Transcript

/-!
# Attempts

What one verification attempt does, seen from its log. An attempt follows `attemptPlan`: version and
encryption by the agent, then registration and decryption by the crypto service, the ciphertext
being what the agent answered. `Event.failure?` says what is wrong with an answer, and `Attempt`
says that the plan was followed up to the first failure and that this failure is the outcome.

* `exchangeWithService_follows`, `exchangeChallenge_attempt` — the two halves of an exchange, each
  opened once, call by call. Nothing below this point unfolds them again.
* `verify_follows_plan` — the main statement: calls, outcome, instants and the record afterwards.
* `Attempt.of_ok`, `Attempt.of_error`, `Attempt.checked` — the same read backwards: which calls
  stand behind a success, which one behind a failure, and that the crypto service is called only
  about a ciphertext that passed the check.

The last request of the plan depends on an answer to an earlier one, so a plan is no fixed list. In
`Attempt` the ciphertext is therefore a witness, which an event of the attempt has to confirm as
soon as it matters, that is once more than two calls were made.
-/

namespace NodeAdmission.Admission

/-! ### The plan and what can go wrong

The calls of an attempt are known in advance but for the body that the agent answers with. What is
wrong with an answer is told by the answer alone (`Event.failure?`). -/

/-- The calls of an attempt to which nothing happens. -/
def attemptPlan (identity : Identity) (r : NodeRecord) (c : Challenge) (ciphertext : String) :
    List Request :=
  [.version r.name r.ip, .encrypt r.name r.ip c.text, .register identity.clientName,
    .decrypt identity.clientName identity.keyName ciphertext]

/-- What is wrong with an answer in an attempt on a challenge. -/
def Event.failure? (c : Challenge) : Event → Option VerificationError
  | .asked _ _ (.ok _) => none
  | .asked _ _ (.error e) => some (.agentUnreachable e.message)
  | .challenged _ _ _ (.ok body) =>
    if body = "" then some (.agentEncryptFailed "empty ciphertext")
    else
      match Base64.decode (Utf8.encode body) with
      | .ok _ => none
      | .error e => some (.decryptMismatch ("ciphertext is not base64: " ++ e.message))
  | .challenged _ _ _ (.error e) => some (.agentEncryptFailed e.message)
  | .registered _ (.ok _) => none
  | .registered _ (.error e) => some (.cryptoServiceUnavailable e.message)
  | .decrypted _ _ _ (.ok plaintext) =>
    if plaintext = Utf8.encode c.text then none
    else some (.decryptMismatch "plaintext differs from challenge")
  | .decrypted _ _ _ (.error e) =>
    if e.isAnswer then some (.decryptMismatch ("decrypt rejected: " ++ e.message))
    else some (.cryptoServiceUnavailable e.message)
  | .listed _ => none
  | .applied _ _ _ => none
  | .probed _ _ _ => none
  | .slept _ => none

def Event.Fails (c : Challenge) (e : Event) : Prop := e.failure? c ≠ none

def attemptResult (c : Challenge) (events : List Event) : Except VerificationError Unit :=
  match events.findSome? (Event.failure? c) with
  | none => .ok ()
  | some e => .error e

/-- The events follow a plan up to the first failure, which is the outcome. -/
structure FollowsPlan (c : Challenge) (plan : List Request) (events : List Event)
    (result : Except VerificationError Unit) : Prop where
  cut : CutAtFailure (Event.Fails c) plan events
  decided : result = attemptResult c events

/-- The events of an attempt on the challenge `c` and its outcome. The crypto service is asked to
decrypt just what the agent answered. -/
def Attempt (identity : Identity) (r : NodeRecord) (c : Challenge) (events : List Event)
    (result : Except VerificationError Unit) : Prop :=
  ∃ body, FollowsPlan c (attemptPlan identity r c body) events result ∧
    (2 < events.length → .challenged r.name r.ip c.text (.ok body) ∈ events)

/-! ### Lemmas on failures

An exchange judges every answer as it comes, and `Event.failure?` judges it from the log. The
first lemmas show that the two judge alike; then those on `FollowsPlan` build the outcome of a
plan one call at a time. -/

/-- The check of the agent's answer finds just what `Event.failure?` finds wrong with it. -/
theorem failure?_challenged_ok (c : Challenge) (node ip challenge body : String) :
    (Event.challenged node ip challenge (.ok body)).failure? c =
      match checkCiphertext body with
      | .ok _ => none
      | .error e => some e := by
  unfold checkCiphertext
  simp only [Event.failure?]
  by_cases hb : body = ""
  · rw [if_pos hb, if_pos hb]
  · rw [if_neg hb, if_neg hb]
    cases Base64.decode (Utf8.encode body) <;> rfl

/-- An error of `decrypt` is told apart by `decryptError` just as by `Event.failure?`. -/
theorem failure?_decrypted_error (c : Challenge) (client key ciphertext : String)
    (e : Http.RemoteError) :
    (Event.decrypted client key ciphertext (.error e)).failure? c = some (decryptError e) := by
  simp only [Event.failure?, decryptError]
  split <;> rfl

theorem encode_text (c : Challenge) : Utf8.encode c.text = Utf8.encodeChars c.chars := by
  rw [Utf8.encode, Challenge.text, String.toList_ofList]

/-- The comparison of the plaintext finds just what `Event.failure?` finds wrong with it. -/
theorem failure?_decrypted_ok (c : Challenge) (client key ciphertext : String) (plaintext : Bytes) :
    (Event.decrypted client key ciphertext (.ok plaintext)).failure? c =
      match comparePlaintext plaintext c with
      | .ok _ => none
      | .error e => some e := by
  simp only [Event.failure?, comparePlaintext, encode_text]
  split <;> rfl

/-- A missing challenge is no failure of a call. -/
theorem failure?_ne_noPendingChallenge (c : Challenge) (e : Event) :
    e.failure? c ≠ some .noPendingChallenge := by
  intro h
  unfold Event.failure? at h
  repeat' split at h
  all_goals cases h

theorem attemptResult_cons_of_none {c : Challenge} {e : Event} (events : List Event)
    (h : e.failure? c = none) : attemptResult c (e :: events) = attemptResult c events := by
  simp only [attemptResult, List.findSome?_cons, h]

theorem attemptResult_cons_of_some {c : Challenge} {e : Event} {err : VerificationError}
    (events : List Event) (h : e.failure? c = some err) :
    attemptResult c (e :: events) = .error err := by
  simp only [attemptResult, List.findSome?_cons, h]

/-- An attempt succeeds if no event of it failed, and only then. -/
theorem attemptResult_eq_ok_iff {c : Challenge} {events : List Event} :
    attemptResult c events = .ok () ↔ ∀ e ∈ events, ¬ e.Fails c := by
  induction events with
  | nil => simp [attemptResult]
  | cons e events ih =>
    cases h : e.failure? c with
    | none => simp [attemptResult_cons_of_none events h, ih, Event.Fails, h]
    | some err => simp [attemptResult_cons_of_some events h, Event.Fails, h]

namespace FollowsPlan

variable {c : Challenge} {q : Request} {plan : List Request} {events : List Event} {e : Event}
  {err : VerificationError} {result : Except VerificationError Unit}

theorem nil : FollowsPlan c [] [] (.ok ()) := ⟨.nil, rfl⟩

/-- A plan whose first call fails: that failure is the outcome. -/
theorem fail (hq : e.request = q) (h : e.failure? c = some err) :
    FollowsPlan c (q :: plan) [e] (.error err) where
  cut := .stop hq (by simp [Event.Fails, h])
  decided := (attemptResult_cons_of_some [] h).symm

/-- A plan whose first call does not fail has the outcome of the rest. -/
theorem pass (hq : e.request = q) (h : e.failure? c = none)
    (hf : FollowsPlan c plan events result) : FollowsPlan c (q :: plan) (e :: events) result where
  cut := .next hq (by simp [Event.Fails, h]) hf.cut
  decided := by rw [attemptResult_cons_of_none events h, hf.decided]

/-- The last step of a plan decides alone. -/
theorem last (hq : e.request = q)
    (h : e.failure? c = match result with | .ok _ => none | .error err => some err) :
    FollowsPlan c [q] [e] result := by
  cases result with
  | ok _ => exact pass hq h nil
  | error err => exact fail hq h

end FollowsPlan

/-! ### One exchange -/

/-- The crypto service's half of the plan. -/
theorem exchangeWithService_follows (env : Environment ω) (identity : Identity) (c : Challenge)
    (ciphertext : String) (s : Session ω) :
    ∃ es, s.Calls env es (exchangeWithService env identity c ciphertext s).2 ∧
      FollowsPlan c
        [.register identity.clientName, .decrypt identity.clientName identity.keyName ciphertext]
        (events es) (exchangeWithService env identity c ciphertext s).1 := by
  have hreg := s.calls_register env identity.clientName
  unfold exchangeWithService
  generalize s.register env identity.clientName = reply at hreg ⊢
  obtain ⟨e | u, s₁⟩ := reply
  · -- The registration failed, and the plan ends here.
    exact ⟨_, hreg, .fail rfl rfl⟩
  have hdec := s₁.calls_decrypt env identity.clientName identity.keyName ciphertext
  dsimp only at hreg ⊢
  generalize s₁.decrypt env identity.clientName identity.keyName ciphertext = reply at hdec ⊢
  obtain ⟨e | plaintext, s₂⟩ := reply
  · exact ⟨_, hreg.trans hdec, .pass rfl rfl (.fail rfl (failure?_decrypted_error ..))⟩
  · exact ⟨_, hreg.trans hdec, .pass rfl rfl (.last rfl (failure?_decrypted_ok ..))⟩

theorem exchangeChallenge_attempt (env : Environment ω) (identity : Identity) (r : NodeRecord)
    (c : Challenge) (s : Session ω) :
    ∃ es, s.Calls env es (exchangeChallenge env identity r c s).2 ∧
      Attempt identity r c (events es) (exchangeChallenge env identity r c s).1 := by
  have hver := s.calls_version env r
  unfold exchangeChallenge
  generalize s.version env r = reply at hver ⊢
  obtain ⟨e | v, s₁⟩ := reply
  · -- Without a ciphertext any text will do: the plan is cut before it is asked for.
    exact ⟨_, hver, "", .fail rfl rfl, by simp⟩
  have henc := s₁.calls_encrypt env r c
  dsimp only at hver ⊢
  generalize s₁.encrypt env r c = reply at henc ⊢
  obtain ⟨e | body, s₂⟩ := reply
  · exact ⟨_, hver.trans henc, "", .pass rfl rfl (.fail rfl rfl), by simp⟩
  -- The check is no call. It fails or passes on the answer that was given before.
  have hcheck := failure?_challenged_ok c r.name r.ip c.text body
  dsimp only at henc ⊢
  generalize checkCiphertext body = check at hcheck ⊢
  obtain e | u := check
  · exact ⟨_, hver.trans henc, body, .pass rfl rfl (.fail rfl hcheck), by simp⟩
  · obtain ⟨es, hes, hfollows⟩ := exchangeWithService_follows env identity c body s₂
    exact ⟨_, (hver.trans henc).trans hes, body, .pass rfl rfl (.pass rfl hcheck hfollows), by simp⟩

theorem exchangeWithService_drawn (env : Environment ω) (identity : Identity) (c : Challenge)
    (ciphertext : String) (s : Session ω) :
    (exchangeWithService env identity c ciphertext s).2.drawn = s.drawn := by
  have hreg : (s.register env identity.clientName).2.drawn = s.drawn := rfl
  unfold exchangeWithService
  generalize s.register env identity.clientName = reply at hreg ⊢
  obtain ⟨e | u, s₁⟩ := reply
  · exact hreg
  have hdec : (s₁.decrypt env identity.clientName identity.keyName ciphertext).2.drawn = s₁.drawn :=
    rfl
  dsimp only at hreg ⊢
  rw [hreg] at hdec
  generalize s₁.decrypt env identity.clientName identity.keyName ciphertext = reply at hdec ⊢
  obtain ⟨e | plaintext, s₂⟩ := reply
  · exact hdec
  · exact hdec

theorem exchangeChallenge_drawn (env : Environment ω) (identity : Identity) (r : NodeRecord)
    (c : Challenge) (s : Session ω) :
    (exchangeChallenge env identity r c s).2.drawn = s.drawn := by
  have hver : (s.version env r).2.drawn = s.drawn := rfl
  unfold exchangeChallenge
  generalize s.version env r = reply at hver ⊢
  obtain ⟨e | v, s₁⟩ := reply
  · exact hver
  have henc : (s₁.encrypt env r c).2.drawn = s₁.drawn := rfl
  dsimp only at hver ⊢
  rw [hver] at henc
  generalize s₁.encrypt env r c = reply at henc ⊢
  obtain ⟨e | body, s₂⟩ := reply
  · exact henc
  dsimp only at henc ⊢
  cases checkCiphertext body with
  | error e => exact henc
  | ok u => exact (exchangeWithService_drawn env identity c body s₂).trans henc

/-! ### What an attempt looks like

From here on attempts are read backwards, from their events. An event that did not fail
is known up to what was answered, and a plan that was cut at its first failure leaves
only a few lists of events. -/

/-- What the four calls of an attempt have answered if they have not failed; this lemma and the
three below read it off the request. -/
theorem Event.eq_asked_ok {c : Challenge} {e : Event} {node ip : String}
    (h : e.request = .version node ip) (he : ¬ e.Fails c) : ∃ v, e = .asked node ip (.ok v) := by
  cases e <;> cases h
  next result =>
    cases result with
    | ok v => exact ⟨v, rfl⟩
    | error err => simp [Event.Fails, Event.failure?] at he

theorem Event.eq_challenged_ok {c : Challenge} {e : Event} {node ip challenge : String}
    (h : e.request = .encrypt node ip challenge) (he : ¬ e.Fails c) :
    ∃ body, e = .challenged node ip challenge (.ok body) ∧ checkCiphertext body = .ok () := by
  cases e <;> cases h
  next result =>
    cases result with
    | ok body =>
      refine ⟨body, rfl, ?_⟩
      rw [Event.Fails, failure?_challenged_ok] at he
      cases hcheck : checkCiphertext body with
      | ok _ => rfl
      | error err => simp [hcheck] at he
    | error err => simp [Event.Fails, Event.failure?] at he

theorem Event.eq_registered_ok {c : Challenge} {e : Event} {client : String}
    (h : e.request = .register client) (he : ¬ e.Fails c) : e = .registered client (.ok ()) := by
  cases e <;> cases h
  next result =>
    cases result with
    | ok u => rfl
    | error err => simp [Event.Fails, Event.failure?] at he

theorem Event.eq_decrypted_ok {c : Challenge} {e : Event} {client key ciphertext : String}
    (h : e.request = .decrypt client key ciphertext) (he : ¬ e.Fails c) :
    e = .decrypted client key ciphertext (.ok (Utf8.encode c.text)) := by
  cases e <;> cases h
  next result =>
    cases result with
    | ok plaintext =>
      by_cases hp : plaintext = Utf8.encode c.text
      · rw [hp]
      · simp [Event.Fails, Event.failure?, hp] at he
    | error err => simp [Event.Fails, failure?_decrypted_error] at he

namespace Attempt

variable {identity : Identity} {r : NodeRecord} {c : Challenge} {evs : List Event}
  {result : Except VerificationError Unit}

/-- The calls behind a success. -/
theorem of_ok (h : Attempt identity r c evs (.ok ())) :
    ∃ v body, evs = [.asked r.name r.ip (.ok v), .challenged r.name r.ip c.text (.ok body),
      .registered identity.clientName (.ok ()),
      .decrypted identity.clientName identity.keyName body (.ok (Utf8.encode c.text))] := by
  obtain ⟨body, ⟨hcut, hdecided⟩, hbody⟩ := h
  -- Without a failure the events answer the whole plan, so there are four, one for each request.
  have hgood := attemptResult_eq_ok_iff.mp hdecided.symm
  have hplan := hcut.map_request_eq hgood
  obtain ⟨e₁, _, rfl, h₁, hplan⟩ := List.map_eq_cons_iff.mp hplan
  obtain ⟨e₂, _, rfl, h₂, hplan⟩ := List.map_eq_cons_iff.mp hplan
  obtain ⟨e₃, _, rfl, h₃, hplan⟩ := List.map_eq_cons_iff.mp hplan
  obtain ⟨e₄, _, rfl, h₄, hplan⟩ := List.map_eq_cons_iff.mp hplan
  obtain rfl := List.map_eq_nil_iff.mp hplan
  -- What did not fail has answered in the one way that counts as success.
  obtain ⟨v, rfl⟩ := Event.eq_asked_ok h₁ (hgood _ (by simp))
  obtain ⟨body', rfl, -⟩ := Event.eq_challenged_ok h₂ (hgood _ (by simp))
  obtain rfl := Event.eq_registered_ok h₃ (hgood _ (by simp))
  obtain rfl := Event.eq_decrypted_ok h₄ (hgood _ (by simp))
  -- The ciphertext of the plan is the one that the agent answered.
  obtain rfl : body = body' := by simpa using hbody
  exact ⟨v, body, rfl⟩

/-- An attempt that fails ends with the call that failed. -/
theorem of_error {err : VerificationError} (h : Attempt identity r c evs (.error err)) :
    ∃ e, evs.getLast? = some e ∧ e.failure? c = some err := by
  obtain ⟨body, ⟨hcut, hdecided⟩, -⟩ := h
  have hfound : evs.findSome? (Event.failure? c) = some err := by
    unfold attemptResult at hdecided
    split at hdecided
    · cases hdecided
    · next h => cases hdecided; exact h
  obtain ⟨e, hmem, he⟩ := List.exists_of_findSome?_eq_some hfound
  -- Nothing is called after a failure, so the failure that was found is the last call.
  obtain ⟨ds, d, rfl⟩ := (List.eq_nil_or_concat evs).resolve_left (List.ne_nil_of_mem hmem)
  have hearlier := hcut.earlier
  simp only [List.concat_eq_append, List.dropLast_concat, List.mem_append, List.mem_singleton,
    List.getLast?_concat] at hearlier hmem ⊢
  rcases hmem with hds | rfl
  · exact absurd (by simp [Event.Fails, he]) (hearlier e hds)
  · exact ⟨e, rfl, he⟩

/-- The crypto service is not called before the agent's answer has passed the check. -/
theorem checked (h : Attempt identity r c evs result) {e : Event} (hmem : e ∈ evs)
    (hcall : e.request.isCryptoCall) :
    ∃ body, .challenged r.name r.ip c.text (.ok body) ∈ evs ∧ checkCiphertext body = .ok () := by
  obtain ⟨body, ⟨hcut, -⟩, -⟩ := h
  -- The first two calls are to the agent; behind them the second has passed the check.
  rcases hcut.of_cons with ⟨e₁, rfl, h₁, -⟩ | ⟨e₁, es, rfl, h₁, -, hcut⟩
  · rw [List.mem_singleton.mp hmem, h₁] at hcall
    cases hcall
  rcases hcut.of_cons with ⟨e₂, rfl, h₂, -⟩ | ⟨e₂, es, rfl, h₂, hfine, -⟩
  · simp only [List.mem_cons, List.not_mem_nil, or_false] at hmem
    rcases hmem with rfl | rfl
    · rw [h₁] at hcall
      cases hcall
    · rw [h₂] at hcall
      cases hcall
  · obtain ⟨body', rfl, hcheck⟩ := Event.eq_challenged_ok h₂ hfine
    exact ⟨body', by simp, hcheck⟩

theorem ne_nil (h : Attempt identity r c evs result) : evs ≠ [] := by
  rintro rfl
  obtain ⟨body, hfollows, -⟩ := h
  have := hfollows.cut.complete
  simp [attemptPlan] at this

theorem not_isMutation (h : Attempt identity r c evs result) {e : Event} (hmem : e ∈ evs) :
    e.request.isMutation = false := by
  obtain ⟨body, ⟨hcut, -⟩, -⟩ := h
  have hplan : ∀ q ∈ attemptPlan identity r c body, q.isMutation = false := by
    simp [attemptPlan, Request.isMutation]
  exact hplan _ (hcut.request_mem hmem)

theorem mutations_eq_nil {es : List Entry} (h : Attempt identity r c (events es) result) :
    mutations es = [] := by
  refine List.filter_eq_nil_iff.mpr fun e he => ?_
  simp [h.not_isMutation he]

/-- No agent is called but that of the node. -/
theorem agentAddress_eq (h : Attempt identity r c evs result) {e : Event} (hmem : e ∈ evs)
    {ip : String} (hip : e.request.agentAddress? = some ip) : ip = r.ip := by
  obtain ⟨body, ⟨hcut, -⟩, -⟩ := h
  have hplan : ∀ q ∈ attemptPlan identity r c body, q.agentAddress? = some ip → r.ip = ip := by
    simp [attemptPlan, Request.agentAddress?]
  exact (hplan _ (hcut.request_mem hmem) hip).symm

/-- An attempt is about its own node, and it probes nobody. -/
theorem node_eq (h : Attempt identity r c evs result) {e : Event} (hmem : e ∈ evs) {name : String}
    (hname : e.request.node? = some name) :
    name = r.name ∧ ∀ ip, e.request ≠ .probe name ip := by
  obtain ⟨body, ⟨hcut, -⟩, -⟩ := h
  have hplan : ∀ q ∈ attemptPlan identity r c body, q.node? = some name →
      name = r.name ∧ ∀ ip, q ≠ .probe name ip := by
    simp [attemptPlan, Request.node?, eq_comm]
  exact hplan _ (hcut.request_mem hmem) hname

theorem length_agentCalls_le (h : Attempt identity r c evs result) :
    (evs.filter (·.request.agentAddress?.isSome)).length ≤ 2 := by
  obtain ⟨body, ⟨hcut, -⟩, -⟩ := h
  exact hcut.length_filter_le (·.agentAddress?.isSome)

theorem length_cryptoCalls_le (h : Attempt identity r c evs result) :
    (evs.filter (·.request.isCryptoCall)).length ≤ 2 := by
  obtain ⟨body, ⟨hcut, -⟩, -⟩ := h
  exact hcut.length_filter_le (·.isCryptoCall)

end Attempt

/-- A missing challenge is not the outcome of an exchange. -/
theorem attemptResult_ne_noPendingChallenge (c : Challenge) (evs : List Event) :
    attemptResult c evs ≠ .error .noPendingChallenge := by
  unfold attemptResult
  split
  · exact nofun
  · next err h =>
    obtain ⟨e, -, he⟩ := List.exists_of_findSome?_eq_some h
    rintro ⟨⟩
    exact failure?_ne_noPendingChallenge c e he

/-! ### Verification

What a verification adds to an exchange is the look for a pending challenge before it, and the
change of the record after it. So the lemmas on exchanges carry over, and what is new is the record.
-/

/-- The record that a verification leaves depends on its outcome and on when it ended. -/
theorem verify_record (env : Environment ω) (identity : Identity) (r : NodeRecord) (s : Session ω) :
    (verify env identity r s).2.1 =
      r.afterExchange (verify env identity r s).2.2.now (verify env identity r s).1 := rfl

theorem verify_drawn (env : Environment ω) (identity : Identity) (r : NodeRecord) (s : Session ω) :
    (verify env identity r s).2.2.drawn = s.drawn := by
  show (exchange env identity r s).2.drawn = s.drawn
  unfold exchange
  cases r.challenge? with
  | none => rfl
  | some c => exact exchangeChallenge_drawn env identity r c s

/-- Verification of a record with a pending challenge is an attempt on it. -/
theorem verify_attempt (env : Environment ω) (identity : Identity) {r : NodeRecord} {c : Challenge}
    (hc : r.challenge? = some c) (s : Session ω) :
    ∃ es, s.Calls env es (verify env identity r s).2.2 ∧
      Attempt identity r c (events es) (verify env identity r s).1 := by
  have hexchange : exchange env identity r s = exchangeChallenge env identity r c s := by
    simp only [exchange, hc]
  simp only [verify, hexchange]
  exact exchangeChallenge_attempt env identity r c s

/-- What an attempt makes of the answer to `decrypt`. -/
def judgeOpened (c : Challenge) : Except Http.RemoteError Bytes → Except VerificationError Unit
  | .error e => .error (decryptError e)
  | .ok plaintext => comparePlaintext plaintext c

/-- If the client can be registered at any time, the second half of an exchange comes down to one
answer of `decrypt`, at some instant and in some state of the world. -/
theorem exchangeWithService_of_registers (env : Environment ω) (identity : Identity) (c : Challenge)
    (ciphertext : String) (s : Session ω)
    (hregister : ∀ now w, (env.register identity.clientName now w).value = .ok ()) :
    ∃ now w, (exchangeWithService env identity c ciphertext s).1 =
      judgeOpened c (env.decrypt identity.clientName identity.keyName ciphertext now w).value := by
  have hregistered : (s.register env identity.clientName).1 = .ok () := hregister _ _
  rw [exchangeWithService]
  generalize s.register env identity.clientName = reply at hregistered ⊢
  obtain ⟨_, s₁⟩ := reply
  obtain rfl := hregistered
  refine ⟨s₁.now, s₁.world, ?_⟩
  have hopened : (s₁.decrypt env identity.clientName identity.keyName ciphertext).1 =
      (env.decrypt identity.clientName identity.keyName ciphertext s₁.now s₁.world).value := rfl
  rw [← hopened]
  dsimp only
  generalize s₁.decrypt env identity.clientName identity.keyName ciphertext = reply
  obtain ⟨e | plaintext, s₂⟩ := reply <;> rfl

/-- When the agent answers both calls and the registration succeeds, the outcome is decided by the
agent's answer and by what the crypto service makes of it. -/
theorem verify_of_answers (env : Environment ω) (identity : Identity) {r : NodeRecord}
    {c : Challenge} {s : Session ω} {v body : String} (hc : r.challenge? = some c)
    (hversion : (s.version env r).1 = .ok v)
    (hbody : ((s.version env r).2.encrypt env r c).1 = .ok body)
    (hregister : ∀ now w, (env.register identity.clientName now w).value = .ok ()) :
    ∃ now w, (verify env identity r s).1 =
      match checkCiphertext body with
      | .error e => .error e
      | .ok _ =>
        judgeOpened c (env.decrypt identity.clientName identity.keyName body now w).value := by
  have hverify : (verify env identity r s).1 = (exchangeChallenge env identity r c s).1 := by
    simp only [verify, exchange, hc]
  rw [hverify, exchangeChallenge]
  generalize s.version env r = reply at hversion hbody ⊢
  obtain ⟨_, s₁⟩ := reply
  obtain rfl := hversion
  dsimp only at hbody ⊢
  generalize s₁.encrypt env r c = reply at hbody ⊢
  obtain ⟨_, s₂⟩ := reply
  obtain rfl := hbody
  dsimp only
  cases checkCiphertext body with
  -- A ciphertext that does not pass is never opened, so any instant will do.
  | error e => exact ⟨0, s.world, rfl⟩
  | ok u => exact exchangeWithService_of_registers env identity c body s₂ hregister

/-- One attempt, end to end. Without a pending challenge nobody is called. With one, the plan is
followed up to its first failure, which is the outcome, and no other call is made. Afterwards the
attempt is over: the record is verified, or its cooldown starts when the failing call returns. -/
theorem verify_follows_plan (env : Environment ω) (identity : Identity) (r : NodeRecord)
    (s : Session ω) :
    let result := (verify env identity r s).1
    let r' := (verify env identity r s).2.1
    let s' := (verify env identity r s).2.2
    (r.challenge? = none → result = .error .noPendingChallenge ∧ s' = s) ∧
    (∀ c, r.challenge? = some c → ∃ es, s.Calls env es s' ∧
      Attempt identity r c (events es) result ∧
      (∀ e ∈ events es, e.request.isCryptoCall → ∃ body,
        .challenged r.name r.ip c.text (.ok body) ∈ events es ∧ checkCiphertext body = .ok ()) ∧
      es.getLast?.map Entry.ended = some s'.now) ∧
    (result = .ok () →
      r' = { r with verified := true, challenge? := none, nextCheckAt? := none }) ∧
    (∀ e, result = .error e → r' = { r with challenge? := none, nextCheckAt? := some s'.now }) := by
  refine ⟨?_, ?_, ?_, ?_⟩
  · intro hc
    -- Nothing is pending, so nothing is called.
    simp [verify, exchange, hc]
  · intro c hc
    obtain ⟨es, hes, hattempt⟩ := verify_attempt env identity hc s
    -- There is a last call, and it ends at the present instant.
    have hne : es ≠ [] := by
      rintro rfl
      exact hattempt.ne_nil rfl
    exact ⟨es, hes, hattempt, fun _ => hattempt.checked, hes.map_ended_getLast? hne⟩
  · intro hok
    rw [verify_record, hok]
    rfl
  · intro e herror
    rw [verify_record, herror]
    rfl

end NodeAdmission.Admission
