import NodeAdmission.Proofs.Faults
import NodeAdmission.Proofs.Forwarding

/-!
# Answers and failures on the way

Whoever calls a peer can tell from the error whether the peer answered.

* `Call.failure_reports` — an answer with another status than 200 becomes the error that reports it,
  with its code if the body is a fault.
* `Call.FailsPlainly` — the reading of an answer with status 200 never looks like another answer. It
  is enough to know this of a call, for then its outcome and what was sent for it agree
  (`Call.Sends.toldApart`).
* `Crypto.Client.callOf`, `Crypto.Client.send_eq` — every operation of the crypto service is one
  call, and what it makes of its outcome is the outcome itself. The check of a signature is the
  exception: it takes just the errors of answers for a rejection.
* `remote_answers_told_apart` — the main statement, for all operations of both clients.

`ToldApart` compares the outcome with the trace and not with the reply alone, so it also says that
nothing was sent in the other cases, or that no answer came.
-/

namespace NodeAdmission

open Service (Action Traced)

variable {α β : Type} {sent : List Action}

/-! ### Calls

An answer with another status always becomes the error that reports it. What has to be shown of each
reader is only that it never makes such an error out of an answer with status 200. -/

namespace Http

variable {r : Response} {call : Call α} {exchange : Exchange (Timed ω)}
  {outcome : Except RemoteError α}

/-- The body of a response as text; one that was cut short counts as empty. -/
def Response.text (r : Response) : String := if r.complete then Utf8.decodeLossy r.body else ""

/-- The error is what an answer with another status than 200 stands for: a fault if the body is one,
and the status with the body if it is none. -/
structure RemoteError.Reports (e : RemoteError) (r : Response) : Prop where
  fault : ∀ code, e = .serviceFailure r.status code ↔
    Crypto.Fault.decoder.decode (Utf8.encode r.text) = .ok ⟨code⟩
  other : e = .unexpectedStatus r.status r.text ↔
    ∀ fault, Crypto.Fault.decoder.decode (Utf8.encode r.text) ≠ .ok fault
  /-- The code of an object is reported if it fits, whatever else the object holds. -/
  coded : ∀ c, Crypto.Fault.Spelled r.text c → -2147483648 ≤ c ∧ c ≤ 2147483647 →
    ∃ code : Int32, code.toInt = c ∧ e = .serviceFailure r.status code
  tooLarge : ∀ c, Crypto.Fault.Spelled r.text c → ¬ (-2147483648 ≤ c ∧ c ≤ 2147483647) →
    e = .unexpectedStatus r.status r.text

/-- The outcome of a call tells whether the peer answered with another status than 200. -/
structure ToldApart (sent : List Action) (outcome : Except RemoteError α) : Prop where
  answered : (∃ e, outcome = .error e ∧ e.isAnswer = true) ↔
    ∃ request response, sent = [.sent request (.answered response)] ∧ response.status ≠ 200
  reports : ∀ request response, sent = [.sent request (.answered response)] →
    response.status ≠ 200 →
    ∃ e, outcome = .error e ∧ e.Reports response

namespace Call

/-- A body that is a fault is reported by its code. -/
theorem failure_of_fault {code : Int32}
    (h : Crypto.Fault.decoder.decode (Utf8.encode r.text) = .ok ⟨code⟩) :
    failure r = .serviceFailure r.status code := by
  rw [Response.text] at h
  rw [failure, h]

theorem failure_of_other {e : Json.DecodeError}
    (h : Crypto.Fault.decoder.decode (Utf8.encode r.text) = .error e) :
    failure r = .unexpectedStatus r.status r.text := by
  rw [Response.text] at h
  rw [failure, h]
  rfl

theorem failure_isAnswer (r : Response) : (failure r).isAnswer = true := by
  cases h : Crypto.Fault.decoder.decode (Utf8.encode r.text) with
  | ok fault => rw [failure_of_fault h]; rfl
  | error e => rw [failure_of_other h]; rfl

/-- What is made of an answer with another status reports it. -/
theorem failure_reports (r : Response) : (failure r).Reports r := by
  have hcoded : ∀ c, Crypto.Fault.Spelled r.text c → -2147483648 ≤ c ∧ c ≤ 2147483647 →
      ∃ code : Int32, code.toInt = c ∧ failure r = .serviceFailure r.status code := by
    intro c hspelled hc
    refine ⟨Int32.ofInt c, ?_, failure_of_fault (hspelled.decode_eq_ok hc)⟩
    exact Int32.toInt_ofInt_of_le hc.1 (Int.lt_add_one_of_le hc.2)
  -- A code that does not fit 32 bits is no fault, although it is spelled like one.
  have htooLarge : ∀ c, Crypto.Fault.Spelled r.text c → ¬ (-2147483648 ≤ c ∧ c ≤ 2147483647) →
      failure r = .unexpectedStatus r.status r.text := by
    intro c hspelled hc
    obtain ⟨e, he⟩ := hspelled.decode_eq_error hc
    exact failure_of_other he
  cases h : Crypto.Fault.decoder.decode (Utf8.encode r.text) with
  | ok fault =>
    refine ⟨fun code => ?_, ?_, hcoded, htooLarge⟩
    · rw [failure_of_fault h, h]
      cases fault
      simp
    · rw [failure_of_fault h, h]
      simp
  | error e =>
    refine ⟨fun code => ?_, ?_, hcoded, htooLarge⟩
    · rw [failure_of_other h, h]
      simp
    · rw [failure_of_other h, h]
      simp

/-- What is wrong with an answer of status 200 is no answer of another status. -/
def FailsPlainly (call : Call α) : Prop :=
  ∀ response e, call.read response = .error e → e.isAnswer = false

end Call

/-- An outcome that is no answer agrees with a trace without one. -/
theorem ToldApart.of_plain (hplain : ∀ e, outcome = .error e → e.isAnswer = false)
    (hsent : ∀ request response,
      sent = [.sent request (.answered response)] → response.status = 200) :
    ToldApart sent outcome := by
  refine ⟨⟨?_, ?_⟩, ?_⟩
  · rintro ⟨e, he, hanswer⟩
    rw [hplain e he] at hanswer
    cases hanswer
  · rintro ⟨request, response, hone, hstatus⟩
    exact absurd (hsent request response hone) hstatus
  · intro request response hone hstatus
    exact absurd (hsent request response hone) hstatus

/-- The error of an answer agrees with the request that was answered so. -/
theorem ToldApart.of_failure (request : Request) (hstatus : r.status ≠ 200) :
    ToldApart [.sent request (.answered r)] (.error (Call.failure r) : Except RemoteError α) := by
  constructor
  · exact ⟨fun _ => ⟨request, r, rfl, hstatus⟩, fun _ => ⟨_, rfl, Call.failure_isAnswer r⟩⟩
  · intro request' r' hone hstatus'
    simp only [List.cons.injEq, Action.sent.injEq, Reply.answered.injEq, and_true] at hone
    obtain ⟨-, rfl⟩ := hone
    exact ⟨_, rfl, Call.failure_reports r⟩

namespace Call

theorem Sends.toldApart (h : call.Sends exchange sent outcome) (hplain : call.FailsPlainly) :
    ToldApart sent outcome := by
  -- Only an answer with another status than 200 is an answer; all else fails plainly.
  cases h with
  | unsendable hurl =>
    refine .of_plain ?_ (by simp)
    rintro e ⟨⟩
    rfl
  | @sent url reply hurl hreply =>
    cases reply with
    | failed stage =>
      refine .of_plain ?_ (by simp)
      rintro e ⟨⟩
      rfl
    | answered response =>
      rw [conclude]
      split
      · next hstatus =>
        refine .of_plain (hplain response) ?_
        intro request response' hone
        simp only [List.cons.injEq, Action.sent.injEq, Reply.answered.injEq, and_true] at hone
        exact hone.2 ▸ hstatus
      · next hstatus => exact .of_failure _ hstatus

def map (f : α → β) (call : Call α) : Call β :=
  { call with read := fun response => (call.read response).map f }

theorem conclude_map (f : α → β) (call : Call α) (url : Url) (reply : Reply) :
    (call.map f).conclude url reply = (call.conclude url reply).map f := by
  cases reply with
  | failed stage => rfl
  | answered response =>
    rw [conclude, conclude]
    split <;> rfl

/-- To change the result of a call is to change what comes of it. -/
theorem perform_map (exchange : Exchange (Timed ω)) (f : α → β) (call : Call α) :
    (call.map f).perform exchange = Except.map f <$> call.perform exchange := by
  have hdestination : (call.map f).destination = call.destination := rfl
  rw [perform, perform, hdestination]
  cases call.destination with
  | error failure => rfl
  | ok url =>
    simp only [map_bind, map_pure, conclude_map]
    rfl

namespace FailsPlainly

/-- A change of the result does not make errors. -/
theorem map (h : call.FailsPlainly) (f : α → β) : (call.map f).FailsPlainly := by
  intro response e he
  have he : (call.read response).map f = .error e := he
  cases hread : call.read response with
  | ok a =>
    rw [hread] at he
    cases he
  | error e' =>
    rw [hread] at he
    cases he
    exact h response e hread

theorem of_readNothing {call : Call Unit} (h : call.read = readNothing) : call.FailsPlainly := by
  intro response e he
  rw [h] at he
  cases he

theorem of_readBytes {call : Call Bytes} (h : call.read = readBytes) : call.FailsPlainly := by
  intro response e he
  rw [h, readBytes] at he
  split at he <;> cases he
  rfl

theorem of_readText {call : Call String} (h : call.read = readText) : call.FailsPlainly := by
  intro response e he
  rw [h, readText, readBytes] at he
  split at he <;> cases he
  rfl

end FailsPlainly
end Call
end Http

/-! ### Operations of the crypto service -/

namespace Crypto.Client

open Http (Call Exchange RemoteError)

variable (client : Client)

/-- A list of keys that cannot be read is no answer of another status. -/
theorem listKeys_failsPlainly (name : String) : (client.listKeys name).FailsPlainly := by
  intro response e he
  have he : readKeys response = .error e := he
  rw [readKeys, Call.readBytes] at he
  split at he
  · next hbytes =>
    split at hbytes <;> cases hbytes
    cases he
    rfl
  · split at he <;> cases he
    rfl

def callOf : Operation → Call Result
  | .register n => (client.register n).map fun _ => .done
  | .remove n => (client.remove n).map fun _ => .done
  | .listKeys n => (client.listKeys n).map .keys
  | .deleteAllKeys n => (client.deleteAllKeys n).map fun _ => .done
  | .createSigningKey n k => (client.createSigningKey n k).map fun _ => .done
  | .createEncryptionKey n k => (client.createEncryptionKey n k).map fun _ => .done
  | .exportKey n k => (client.exportKey n k).map .text
  | .importKey n k line => (client.importKey n k line).map fun _ => .done
  | .deleteKey n k => (client.deleteKey n k).map fun _ => .done
  | .sign n k message => (client.sign n k message).map .text
  | .verify n k message signature => (client.verify n k message signature).map fun _ => .valid true
  | .encrypt n k message => (client.encrypt n k message).map .text
  | .decrypt n k ciphertext => (client.decrypt n k ciphertext).map .bytes

/-- What an operation makes of the outcome of its call. The check of a signature takes an answer
that is a failure for a rejection and passes every other error on, and any other operation gives
the outcome as it is. -/
def settle : Operation → Except RemoteError Result → Except RemoteError Result
  | .verify _ _ _ _, .error e => if e.isAnswer then .ok (.valid false) else .error e
  | _, outcome => outcome

theorem settle_verify (n k message signature : String) (outcome : Except RemoteError Unit) :
    settle (.verify n k message signature) (outcome.map fun _ => .valid true) =
      (judge outcome).map .valid := by
  cases outcome with
  | ok u => rfl
  | error e =>
    rw [judge, Except.map, settle]
    split <;> rfl

/-- An operation sends its call and settles the outcome. -/
theorem send_eq (exchange : Exchange (Timed ω)) (op : Operation) :
    client.send exchange op = settle op <$> (client.callOf op).perform exchange := by
  cases op with
  | verify n k message signature =>
    have hjudge : settle (.verify n k message signature) ∘ Except.map (fun _ => .valid true) =
        fun outcome => (judge outcome).map .valid := funext (settle_verify n k message signature)
    rw [callOf, Call.perform_map, ← comp_map, hjudge, send, map_eq_pure_bind]
  | _ =>
    rw [callOf, Call.perform_map, send]
    simp only [map_eq_pure_bind, bind_assoc, pure_bind, settle]

theorem callOf_failsPlainly (op : Operation) : (client.callOf op).FailsPlainly := by
  cases op with
  | listKeys n => exact (client.listKeys_failsPlainly n).map _
  | exportKey n k => exact (Call.FailsPlainly.of_readText rfl).map _
  | sign n k message => exact (Call.FailsPlainly.of_readText rfl).map _
  | encrypt n k message => exact (Call.FailsPlainly.of_readText rfl).map _
  | decrypt n k ciphertext => exact (Call.FailsPlainly.of_readBytes rfl).map _
  | _ => exact (Call.FailsPlainly.of_readNothing rfl).map _

end Crypto.Client

/-! ### Everywhere -/

theorem Http.Call.FailsPlainly.perform {call : Call α} (h : call.FailsPlainly)
    (host : Service.Host ω)
    (now : Instant) (t : Traced ω) :
    let r := call.perform host.send now t
    ∃ sent, r.world.trace = t.trace ++ sent ∧ ToldApart sent r.value := by
  intro r
  obtain ⟨sent, htrace, hsends⟩ := call.perform_sends host now t
  exact ⟨sent, htrace, hsends.toldApart h⟩

/-- An answer of a peer is told from a failure on the way everywhere. Whatever the peers do, the
call of every operation of the crypto service, and both calls to an agent, fail with the error of an
answer if and only if one request was sent for it and was answered with another status than 200; the
error then reports this answer. An operation of the crypto service gives the outcome of its call as
it is, except for the check of a signature, which takes just the answers for a rejection. -/
theorem remote_answers_told_apart (host : Service.Host ω) (crypto : Crypto.Client)
    (agents : Agent.Client)
    (now : Instant) (t : Traced ω) :
    (∀ op, let r := crypto.send host.send op now t
      let outcome := ((crypto.callOf op).perform host.send now t).value
      r.value = Crypto.Client.settle op outcome ∧
        ∃ sent, r.world.trace = t.trace ++ sent ∧ Http.ToldApart sent outcome) ∧
    (∀ ip, let r := (agents.version ip).perform host.send now t
      ∃ sent, r.world.trace = t.trace ++ sent ∧ Http.ToldApart sent r.value) ∧
    ∀ ip challenge, let r := (agents.encrypt ip challenge).perform host.send now t
      ∃ sent, r.world.trace = t.trace ++ sent ∧ Http.ToldApart sent r.value := by
  refine ⟨?_, ?_, ?_⟩
  · intro op r outcome
    obtain ⟨sent, htrace, htold⟩ := (crypto.callOf_failsPlainly op).perform host now t
    -- An operation is its call, with the outcome settled.
    have hsend : r = (Crypto.Client.settle op <$> (crypto.callOf op).perform host.send) now t :=
      congrFun (congrFun (crypto.send_eq host.send op) now) t
    rw [hsend, Timed.map_apply]
    exact ⟨rfl, sent, htrace, htold⟩
  · intro ip
    exact (Http.Call.FailsPlainly.of_readText rfl).perform host now t
  · intro ip challenge
    exact (Http.Call.FailsPlainly.of_readText rfl).perform host now t

section

open Admission (serviceUrl zeroClient zeroHost)

/-- The text of a fault, with a field that nobody knows. -/
def faultText : String := (Json.obj [("Detail", .str "busy"), ("Code", .int (-3))]).compact

/-- A service that answers a fault to everything. -/
def faultHost : Service.Host Unit :=
  { zeroHost with exchange := fun _ => pure (.answered ⟨503, Utf8.encode faultText, true⟩) }

/-- The service refuses a registration with its code, and to the check of a signature it seems to
reject the signature. -/
theorem fault_told_apart :
    let answerTo (op : Crypto.Client.Operation) :=
      (zeroClient.send faultHost.send op 0 { world := () }).value
    answerTo (.register "NodeAuthServer") = .error (.serviceFailure 503 (-3)) ∧
      answerTo (.verify "NodeAuthServer" "MyEncKey" "message" "signature") =
        .ok (.valid false) := by
  intro answerTo
  let busy : Http.Response := ⟨503, Utf8.encode faultText, true⟩
  have hspelled : Crypto.Fault.Spelled busy.text (-3) := by
    have htext : busy.text = faultText := Utf8.decodeLossy_encode faultText
    rw [htext]
    exact Crypto.Fault.spelled_obj [("Detail", .str "busy")] [] (by simp) (-3)
  have hread : ∀ path ∈ ["/client", "/verify"],
      (Http.Url.read (zeroClient.baseUrl ++ path)).toOption = some (serviceUrl path) ∧
        (serviceUrl path).isSendable = true := by decide +kernel
  -- An operation whose call can be sent is answered the fault.
  have hfails : ∀ op url, (zeroClient.callOf op).destination = .ok url →
      answerTo op = Crypto.Client.settle op (.error (.serviceFailure 503 (-3))) := by
    intro op url hurl
    obtain ⟨hsettle, sent, htrace, htold⟩ := (remote_answers_told_apart faultHost zeroClient
      ⟨8301, zeroClient.timeout⟩ 0 { world := () }).1 op
    have hsent : sent = [.sent ((zeroClient.callOf op).request url) (.answered busy)] := by
      rw [zeroClient.send_eq, Timed.map_apply, Http.Call.perform, hurl] at htrace
      exact htrace.symm
    obtain ⟨e, he, hreports⟩ := htold.reports _ _ hsent (by decide)
    obtain ⟨code, hcode, rfl⟩ := hreports.coded (-3) hspelled (by decide)
    obtain rfl : code = -3 := Int32.toInt_inj.mp hcode
    exact hsettle.trans (congrArg _ he)
  constructor
  · obtain ⟨hclient, hsendable⟩ := hread "/client" (by simp)
    exact hfails _ _ (Http.Call.destination_of_toOption hclient hsendable)
  · obtain ⟨hverify, hsendable⟩ := hread "/verify" (by simp)
    exact hfails _ _ (Http.Call.destination_of_toOption hverify hsendable)

end

end NodeAdmission
