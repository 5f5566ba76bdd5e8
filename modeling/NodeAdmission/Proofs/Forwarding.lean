import NodeAdmission.Proofs.Honest

/-!
# Forwarding

What an agent answers goes to the crypto service byte for byte, or it does not go there at all. The
answer is read leniently before it is checked, so two different answers could be read as one text,
or an ill-formed answer as a text that is base64. Neither happens: base64 leaves no room for the
character that the lenient reader puts in the place of what it cannot read
(`checkCiphertext_decodeLossy_iff`).

The requests of an attempt are followed in the trace of a host that writes down what it sends.

* `Http.Call.Sends` — what one call leaves in the trace: one request with its reply, or nothing if
  there is no URL to send it to.
* `Forwards`, `Exchanges` — the two calls to the crypto service, and all four, with what comes of
  them. `verify_exchanges` puts every attempt into this form.
* `Exchanges.of_answered` — an attempt whose agent has answered a body withholds it, or
  forwards what was read of it.
* `Forwards.of_addressable` — what is sent to the service then.
* `verify_forwards_verbatim` — the main statement.

The bodies are those of the requests and replies in the trace, not those of the calls. A log of the
calls would only show the text that was read, and whether this text has the bytes of the answer is
just the question.
-/

namespace NodeAdmission

open Service (Action Traced)

variable {host : Service.Host ω} {exchange : Http.Exchange (Timed ω)} {sent later : List Action}

/-! ### Calls in the trace

A host that writes down what it sends has one entry for a call, or none if there is no URL for it.
What a call comes to can then be told from the reply in the entry. -/

namespace Http

/-- The peer was reached, and it answered with status 200. -/
def Reply.Succeeds (reply : Reply) : Prop :=
  ∃ response, reply = .answered response ∧ response.status = 200

namespace Call

variable {α : Type} {call : Call α} {url : Url} {result : Except RemoteError α} {a : α}

/-- What a call leaves in the trace and what comes of it: one request and the reading of its reply,
or nothing is sent. -/
inductive Sends (exchange : Exchange (Timed ω)) (call : Call α) :
    List Action → Except RemoteError α → Prop where
  | unsendable {failure : TransportFailure} : call.destination = .error failure →
      Sends exchange call [] (.error (.transport failure))
  | sent {url : Url} {reply : Reply} : call.destination = .ok url →
      (∃ now w, (exchange (call.request url) now w).value = reply) →
      Sends exchange call [.sent (call.request url) reply] (call.conclude url reply)

/-- A call that is performed by such a host leaves in the trace what it sends. -/
theorem perform_sends (host : Service.Host ω) (call : Call α) (now : Instant) (t : Traced ω) :
    let r := call.perform host.send now t
    ∃ sent, r.world.trace = t.trace ++ sent ∧ call.Sends host.exchange sent r.value := by
  intro r
  cases hurl : call.destination with
  | error failure =>
    have hr : r = ⟨.error (.transport failure), 0, t⟩ := by
      show call.perform host.send now t = _
      rw [perform, hurl]
      rfl
    rw [hr]
    exact ⟨[], (List.append_nil _).symm, .unsendable hurl⟩
  | ok url =>
    let reply := (host.exchange (call.request url) now t.world).value
    have hvalue : r.value = call.conclude url reply := perform_of_destination hurl now t
    have htrace : r.world.trace = t.trace ++ [.sent (call.request url) reply] := by
      show (call.perform host.send now t).world.trace = _
      rw [perform, hurl]
      rfl
    rw [hvalue]
    exact ⟨_, htrace, .sent hurl ⟨now, t.world, rfl⟩⟩

namespace Sends

/-- A call that has a URL sends its request. -/
theorem of_destination (h : call.Sends exchange sent result) (hurl : call.destination = .ok url) :
    ∃ reply, sent = [.sent (call.request url) reply] ∧
      (∃ now w, (exchange (call.request url) now w).value = reply) ∧
      result = call.conclude url reply := by
  cases h with
  | unsendable hfailure => simp [hurl] at hfailure
  | sent hurl' hreply =>
    obtain rfl := Except.ok.inj (hurl.symm.trans hurl')
    exact ⟨_, rfl, hreply, rfl⟩

/-- A call that succeeds has sent its request and was answered with status 200. -/
theorem of_ok (h : call.Sends exchange sent (.ok a)) :
    ∃ url response, call.destination = .ok url ∧
      sent = [.sent (call.request url) (.answered response)] ∧ response.status = 200 ∧
      call.read response = .ok a := by
  generalize hresult : Except.ok a = result at h
  cases h with
  | unsendable hfailure => cases hresult
  | sent hurl hreply =>
    obtain ⟨response, rfl, hstatus, hread⟩ := conclude_eq_ok_iff.mp hresult.symm
    exact ⟨_, response, hurl, rfl, hstatus, hread.trans hresult⟩

/-- If the request was answered with status 200 then the result is what the call reads of it. -/
theorem of_answered {request : Request} {response : Response}
    (h : call.Sends exchange (.sent request (.answered response) :: later) result)
    (hstatus : response.status = 200) : result = call.read response := by
  cases h with
  | sent hurl hreply => exact if_pos hstatus

/-- A call that completes sends its request and is answered. -/
theorem of_completes (h : call.Sends exchange sent result) (hcompletes : call.Completes exchange) :
    ∃ url body, sent = [.sent (call.request url) (.answered ⟨200, body, true⟩)] ∧
      result = call.read ⟨200, body, true⟩ := by
  obtain ⟨url, hurl, hanswered⟩ := hcompletes
  obtain ⟨reply, rfl, ⟨now, w, hreply⟩, rfl⟩ := h.of_destination hurl
  obtain ⟨body, hbody⟩ := hanswered now w
  obtain rfl := hbody.symm.trans hreply
  exact ⟨url, body, rfl, rfl⟩

theorem length_le (h : call.Sends exchange sent result) : sent.length ≤ 1 := by
  cases h <;> simp

end Sends

/-- A call that reads bytes ends with just the body of the answer. -/
theorem conclude_eq_bytes_iff {call : Call Bytes} {reply : Reply} {bytes : Bytes}
    (hread : call.read = readBytes) :
    call.conclude url reply = .ok bytes ↔ reply = .answered ⟨200, bytes, true⟩ := by
  rw [conclude_eq_ok_iff, hread]
  constructor
  · rintro ⟨⟨status, body, complete⟩, rfl, rfl, h⟩
    cases complete with
    | false => simp [readBytes, cutBody] at h
    | true => simpa [readBytes] using h
  · rintro rfl
    exact ⟨_, rfl, rfl, rfl⟩

end Call
end Http

/-- Requests can be sent to the paths of the service below its base URL. -/
def Crypto.Client.IsAddressable (client : Crypto.Client) : Prop :=
  ∀ path ∈ ["/client", "/decrypt"],
    ∃ url, Http.Url.read (client.baseUrl ++ path) = .ok url ∧ url.isSendable = true

theorem Crypto.Client.IsAddressable.destination {α : Type} {client : Crypto.Client} {path : String}
    {q : Crypto.Request} {read : Http.Response → Except Http.RemoteError α}
    (h : client.IsAddressable) (hpath : path ∈ ["/client", "/decrypt"]) :
    ∃ url, (client.call .post path q read).destination = .ok url := by
  obtain ⟨url, hread, hsendable⟩ := h path hpath
  exact ⟨url, Http.Call.destination_eq_ok_iff.mpr ⟨hread, hsendable⟩⟩

namespace Admission

open Http (RemoteError)

variable {agents : Agent.Client} {crypto : Crypto.Client} {env : Environment (Traced ω)}
  {identity : Identity} {r : NodeRecord} {c : Challenge} {ip text : String} {body : Bytes}
  {liveness request : Http.Request} {version : Http.Reply}
  {result : Except VerificationError Unit}

/-! ### What passes the check -/

/-- The body is the base64 spelling of some bytes. -/
def IsSpelling (body : Bytes) : Prop := ∃ bytes, bytes ≠ [] ∧ body = Base64.encode bytes

/-- The character for what cannot be read is in no spelling. -/
theorem replacement_not_mem {bytes : Bytes} (h : Utf8.encode text = Base64.encode bytes) :
    Utf8.replacement ∉ text.toList := by
  intro hmem
  -- Its bytes are beyond ASCII, and all of base64 is ASCII.
  have hbyte : (0xEF : UInt8) ∈ Base64.encode bytes := by
    rw [← h]
    exact List.mem_flatMap.mpr ⟨Utf8.replacement, hmem, by decide⟩
  exact absurd (Base64.toNat_lt_of_mem_encode hbyte) (by decide)

/-- What passes the check was read without loss. -/
theorem encode_decodeLossy_of_checked (h : checkCiphertext (Utf8.decodeLossy body) = .ok ()) :
    Utf8.encode (Utf8.decodeLossy body) = body := by
  obtain ⟨bytes, -, hspelling⟩ := of_checkCiphertext h
  exact Utf8.encode_decodeLossy_of_not_mem (replacement_not_mem hspelling)

/-- A body passes the check just if it is a spelling. -/
theorem checkCiphertext_decodeLossy_iff :
    checkCiphertext (Utf8.decodeLossy body) = .ok () ↔ IsSpelling body := by
  constructor
  · intro h
    obtain ⟨bytes, hne, hspelling⟩ := of_checkCiphertext h
    rw [encode_decodeLossy_of_checked h] at hspelling
    exact ⟨bytes, hne, hspelling⟩
  · rintro ⟨bytes, hne, rfl⟩
    refine checkCiphertext_of_spelling hne ?_
    exact Utf8.encode_decodeLossy fun _ hmem => Base64.toNat_lt_of_mem_encode hmem

/-! ### The requests of an attempt

`Exchanges` pairs what is sent in an attempt with its outcome, one constructor for each place where
it can end. The theorem is then a case analysis, with the second request given. -/

/-- A call that is made in a session and recorded there is a call in the trace. -/
theorem Session.call_sends {α : Type} {call : Http.Call α}
    {action : Timed (Traced ω) (Except RemoteError α)} (haction : action = call.perform host.send)
    (s : Session (Traced ω)) (event : Except RemoteError α → Event) :
    ∃ sent answer s', s.call action event = (answer, s') ∧
      s'.world.trace = s.world.trace ++ sent ∧ call.Sends host.exchange sent answer := by
  subst haction
  obtain ⟨sent, htrace, hsends⟩ := Http.Call.perform_sends host call s.now s.world
  exact ⟨sent, _, _, rfl, htrace, hsends⟩

/-- What is sent to the crypto service once a ciphertext is forwarded, and what comes of it. -/
inductive Forwards (exchange : Http.Exchange (Timed ω)) (crypto : Crypto.Client)
    (identity : Identity) (c : Challenge) (text : String) :
    List Action → Except VerificationError Unit → Prop where
  | unregistered {sent : List Action} {e : RemoteError} :
      (crypto.register identity.clientName).Sends exchange sent (.error e) →
      Forwards exchange crypto identity c text sent (.error (.cryptoServiceUnavailable e.message))
  | opened {sent later : List Action} {answer : Except RemoteError Bytes} :
      (crypto.register identity.clientName).Sends exchange sent (.ok ()) →
      (crypto.decrypt identity.clientName identity.keyName text).Sends exchange later answer →
      Forwards exchange crypto identity c text (sent ++ later) (judgeOpened c answer)

/-- What is sent in an attempt, and what comes of it. -/
inductive Exchanges (exchange : Http.Exchange (Timed ω)) (agents : Agent.Client)
    (crypto : Crypto.Client) (identity : Identity) (ip : String) (c : Challenge) :
    List Action → Except VerificationError Unit → Prop where
  | unreachable {sent : List Action} {e : RemoteError} :
      (agents.version ip).Sends exchange sent (.error e) →
      Exchanges exchange agents crypto identity ip c sent (.error (.agentUnreachable e.message))
  | unencrypted {sent later : List Action} {v : String} {e : RemoteError} :
      (agents.version ip).Sends exchange sent (.ok v) →
      (agents.encrypt ip c.text).Sends exchange later (.error e) →
      Exchanges exchange agents crypto identity ip c (sent ++ later)
        (.error (.agentEncryptFailed e.message))
  | withheld {sent later : List Action} {v text : String} {e : VerificationError} :
      (agents.version ip).Sends exchange sent (.ok v) →
      (agents.encrypt ip c.text).Sends exchange later (.ok text) → checkCiphertext text = .error e →
      Exchanges exchange agents crypto identity ip c (sent ++ later) (.error e)
  | forwarded {sent later last : List Action} {v text : String}
      {result : Except VerificationError Unit} :
      (agents.version ip).Sends exchange sent (.ok v) →
      (agents.encrypt ip c.text).Sends exchange later (.ok text) → checkCiphertext text = .ok () →
      Forwards exchange crypto identity c text last result →
      Exchanges exchange agents crypto identity ip c (sent ++ (later ++ last)) result

/-- What is done with a ciphertext has this form. -/
theorem exchangeWithService_forwards (hpeers : env.toPeers = .overHttp host.send agents crypto)
    (s : Session (Traced ω)) :
    let outcome := exchangeWithService env identity c text s
    ∃ sent, outcome.2.world.trace = s.world.trace ++ sent ∧
      Forwards host.exchange crypto identity c text sent outcome.1 := by
  have hregister : env.register identity.clientName =
      (crypto.register identity.clientName).perform host.send := by
    rw [hpeers, Peers.overHttp]
  have hdecrypt : env.decrypt identity.clientName identity.keyName text =
      (crypto.decrypt identity.clientName identity.keyName text).perform host.send := by
    rw [hpeers, Peers.overHttp]
  obtain ⟨sent, answer, s₁, hcall, htrace, hsends⟩ := Session.call_sends hregister s (.registered _)
  rw [exchangeWithService, Session.register, hcall]
  cases answer with
  | error e => exact ⟨sent, htrace, .unregistered hsends⟩
  | ok u =>
    obtain ⟨later, answer, s₂, hcall', htrace', hsends'⟩ :=
      Session.call_sends hdecrypt s₁ (.decrypted _ _ _)
    have hboth : s₂.world.trace = s.world.trace ++ (sent ++ later) := by
      rw [htrace', htrace, List.append_assoc]
    -- Whatever comes of the decryption, nothing else is sent.
    have hjudged : Forwards host.exchange crypto identity c text (sent ++ later)
        (judgeOpened c answer) := .opened hsends hsends'
    dsimp only
    rw [Session.decrypt, hcall']
    cases answer with
    | error e => exact ⟨_, hboth, hjudged⟩
    | ok plaintext => exact ⟨_, hboth, hjudged⟩

/-- Every attempt has this form. -/
theorem verify_exchanges (hpeers : env.toPeers = .overHttp host.send agents crypto)
    (hpending : r.challenge? = some c) (s : Session (Traced ω)) :
    let outcome := verify env identity r s
    ∃ sent, outcome.2.2.world.trace = s.world.trace ++ sent ∧
      Exchanges host.exchange agents crypto identity r.ip c sent outcome.1 := by
  -- In this environment the agent is asked by a call that is written down.
  have hversion : env.version r.ip = (agents.version r.ip).perform host.send := by
    rw [hpeers, Peers.overHttp]
  have hencrypt : env.encrypt r.ip c.text = (agents.encrypt r.ip c.text).perform host.send := by
    rw [hpeers, Peers.overHttp]
  have hexchange : Admission.exchange env identity r s = exchangeChallenge env identity r c s := by
    rw [Admission.exchange, hpending]
  rw [verify, hexchange]
  dsimp only
  obtain ⟨sent, answer, s₁, hcall, htrace, hsends⟩ :=
    Session.call_sends hversion s (.asked r.name _)
  rw [exchangeChallenge, Session.version, hcall]
  cases answer with
  | error e => exact ⟨sent, htrace, .unreachable hsends⟩
  -- Each stage adds what it sends behind what was sent before.
  | ok v =>
    obtain ⟨later, answer, s₂, hcall', htrace', hsends'⟩ :=
      Session.call_sends hencrypt s₁ (.challenged r.name _ _)
    have hboth : s₂.world.trace = s.world.trace ++ (sent ++ later) := by
      rw [htrace', htrace, List.append_assoc]
    dsimp only
    rw [Session.encrypt, hcall']
    cases answer with
    | error e => exact ⟨_, hboth, .unencrypted hsends hsends'⟩
    | ok text =>
      dsimp only
      cases hcheck : checkCiphertext text with
      | error e => exact ⟨_, hboth, .withheld hsends hsends' hcheck⟩
      | ok u =>
        obtain ⟨last, htrace'', hforwards⟩ := exchangeWithService_forwards hpeers s₂
        refine ⟨sent ++ (later ++ last), ?_, .forwarded hsends hsends' hcheck hforwards⟩
        rw [htrace'', hboth, List.append_assoc, List.append_assoc]

/-! ### Verbatim or not at all

The form of an attempt is taken apart at the answer of the agent: what was sent before it is known,
and whether anything is sent behind it depends on the check alone. -/

/-- The first two requests of the trace are those of the calls to the agent. -/
theorem answered_of_sends {v : String} {sent₁ sent₂ last : List Action}
    (hversion : (agents.version ip).Sends exchange sent₁ (.ok v))
    (hencrypt : (agents.encrypt ip c.text).Sends exchange sent₂ (.ok text))
    (hall : .sent liveness version :: .sent request (.answered ⟨200, body, true⟩) :: later =
      sent₁ ++ (sent₂ ++ last)) :
    (∃ url, (agents.version ip).destination = .ok url ∧
      liveness = (agents.version ip).request url) ∧
    (∃ url, (agents.encrypt ip c.text).destination = .ok url ∧
      request = (agents.encrypt ip c.text).request url) ∧
    text = Utf8.decodeLossy body ∧ later = last := by
  obtain ⟨url, response, hurl, rfl, -, -⟩ := hversion.of_ok
  obtain ⟨url', response', hurl', rfl, -, hread⟩ := hencrypt.of_ok
  simp only [List.cons_append, List.nil_append, List.cons.injEq, Action.sent.injEq,
    Http.Reply.answered.injEq] at hall
  obtain ⟨⟨rfl, -⟩, ⟨rfl, rfl⟩, rfl⟩ := hall
  have hread : Except.ok (Utf8.decodeLossy body) = .ok text := hread
  exact ⟨⟨url, hurl, rfl⟩, ⟨url', hurl', rfl⟩, (Except.ok.inj hread).symm, rfl⟩

/-- An attempt whose agent has answered a body withholds it or forwards what was read of it. -/
theorem Exchanges.of_answered
    (h : Exchanges exchange agents crypto identity ip c
      (.sent liveness version :: .sent request (.answered ⟨200, body, true⟩) :: later) result) :
    (∃ url, (agents.version ip).destination = .ok url ∧
      liveness = (agents.version ip).request url) ∧
    (∃ url, (agents.encrypt ip c.text).destination = .ok url ∧
      request = (agents.encrypt ip c.text).request url) ∧
    ((∃ e, checkCiphertext (Utf8.decodeLossy body) = .error e ∧ later = [] ∧ result = .error e) ∨
      checkCiphertext (Utf8.decodeLossy body) = .ok () ∧
        Forwards exchange crypto identity c (Utf8.decodeLossy body) later result) := by
  generalize hall : Action.sent liveness version :: _ = all at h
  cases h with
  | unreachable hversion =>
    have hlength := hversion.length_le
    simp [← hall] at hlength
  | unencrypted hversion hencrypt =>
    obtain ⟨url, response, hurl, rfl, -, -⟩ := hversion.of_ok
    obtain ⟨-, rfl⟩ := List.cons.inj hall
    -- Whatever the bytes of a whole answer are, they can be read.
    cases hencrypt.of_answered rfl
  | withheld hversion hencrypt hcheck =>
    -- Nothing was sent behind the answer, as nothing is forwarded.
    rw [← List.append_nil (_ ++ _), List.append_assoc] at hall
    obtain ⟨hasked, hchallenged, rfl, rfl⟩ := answered_of_sends hversion hencrypt hall
    exact ⟨hasked, hchallenged, .inl ⟨_, hcheck, rfl, rfl⟩⟩
  | forwarded hversion hencrypt hcheck hforwards =>
    obtain ⟨hasked, hchallenged, rfl, rfl⟩ := answered_of_sends hversion hencrypt hall
    exact ⟨hasked, hchallenged, .inr ⟨hcheck, hforwards⟩⟩

/-- The comparison succeeds just on the challenge. -/
theorem judgeOpened_eq_ok_iff {answer : Except RemoteError Bytes} :
    judgeOpened c answer = .ok () ↔ answer = .ok (Utf8.encode c.text) := by
  cases answer with
  | error e => simp [judgeOpened]
  | ok plaintext =>
    simp only [judgeOpened, comparePlaintext, ← encode_text, Except.ok.injEq]
    split
    · next heq => simp [heq]
    · next hne => simp [hne]

/-- The service is asked to register the client identity and, if it does, to open the ciphertext. -/
theorem Forwards.of_addressable (h : Forwards exchange crypto identity c text later result)
    (haddressable : crypto.IsAddressable) :
    ∃ registration reply later', later = .sent registration reply :: later' ∧
      Crypto.Asks crypto "/client" (.client identity.clientName) registration ∧
      (¬ reply.Succeeds → later' = [] ∧ result ≠ .ok ()) ∧
      (reply.Succeeds → ∃ decryption answer, later' = [.sent decryption answer] ∧
        Crypto.Asks crypto "/decrypt" ⟨identity.clientName, some identity.keyName, some text, none⟩
          decryption ∧
        (result = .ok () ↔ answer = .answered ⟨200, Utf8.encode c.text, true⟩)) := by
  have hregister : ∃ url, (crypto.register identity.clientName).destination = .ok url :=
    haddressable.destination (by simp)
  have hdecrypt :
      ∃ url, (crypto.decrypt identity.clientName identity.keyName text).destination = .ok url :=
    haddressable.destination (by simp)
  obtain ⟨url, hurl⟩ := hregister
  obtain ⟨url', hurl'⟩ := hdecrypt
  -- The registration was refused, or the service was asked to decrypt.
  cases h with
  | unregistered hsends =>
    obtain ⟨reply, rfl, -, hconclude⟩ := hsends.of_destination hurl
    refine ⟨_, reply, [], rfl, Crypto.Client.asks_call hurl, ?_, ?_⟩
    · intro hfails
      simp
    · rintro ⟨response, rfl, hstatus⟩
      cases hconclude.trans (if_pos hstatus)
  | opened hsends hsends' =>
    obtain ⟨url, response, hurl, rfl, hstatus, -⟩ := hsends.of_ok
    obtain ⟨answer, rfl, -, rfl⟩ := hsends'.of_destination hurl'
    refine ⟨_, _, _, rfl, Crypto.Client.asks_call hurl, ?_, ?_⟩
    · intro hfails
      exact absurd ⟨response, rfl, hstatus⟩ hfails
    · intro hsucceeds
      refine ⟨_, answer, rfl, Crypto.Client.asks_call hurl', ?_⟩
      rw [judgeOpened_eq_ok_iff, Http.Call.conclude_eq_bytes_iff rfl]

/-- A registration that completes succeeds. -/
theorem Forwards.succeeds (h : Forwards exchange crypto identity c text later result)
    (hregister : (crypto.register identity.clientName).Completes exchange)
    {registration : Http.Request} {reply : Http.Reply} {later' : List Action}
    (hlater : later = .sent registration reply :: later') : reply.Succeeds := by
  cases h with
  | unregistered hsends =>
    obtain ⟨url, body, -, hresult⟩ := hsends.of_completes hregister
    cases hresult
  | opened hsends hsends' =>
    obtain ⟨url, response, -, rfl, hstatus, -⟩ := hsends.of_ok
    obtain ⟨hfirst, -⟩ := List.cons.inj hlater
    obtain ⟨-, rfl⟩ := Action.sent.inj hfirst
    exact ⟨response, rfl, hstatus⟩

theorem Exchanges.of_completes {url : Http.Url}
    (h : Exchanges exchange agents crypto identity ip c sent result)
    (hversion : (agents.version ip).Completes exchange)
    (hurl : (agents.encrypt ip c.text).destination = .ok url)
    (hbody : ∀ now w, (exchange ((agents.encrypt ip c.text).request url) now w).value =
      .answered ⟨200, body, true⟩)
    (hregister : (crypto.register identity.clientName).Completes exchange) :
    ∃ liveness version request later,
      sent = .sent liveness version :: .sent request (.answered ⟨200, body, true⟩) :: later ∧
      ∀ registration reply later', later = .sent registration reply :: later' → reply.Succeeds := by
  -- Whatever the rest of the attempt, the agent answers the challenge with the body.
  have hencrypted : ∀ {later result}, (agents.encrypt ip c.text).Sends exchange later result →
      later = [.sent ((agents.encrypt ip c.text).request url) (.answered ⟨200, body, true⟩)] ∧
        result = (agents.encrypt ip c.text).read ⟨200, body, true⟩ := by
    intro later result hsends
    obtain ⟨reply, rfl, ⟨now, w, hreply⟩, -⟩ := hsends.of_destination hurl
    obtain rfl := (hbody now w).symm.trans hreply
    exact ⟨rfl, hsends.of_answered rfl⟩
  cases h with
  | unreachable hsends =>
    obtain ⟨_, _, -, hresult⟩ := hsends.of_completes hversion
    cases hresult
  | unencrypted hsends hsends' => cases (hencrypted hsends').2
  | withheld hsends hsends' hcheck =>
    obtain ⟨_, _, rfl, -⟩ := hsends.of_completes hversion
    obtain ⟨rfl, -⟩ := hencrypted hsends'
    exact ⟨_, _, _, [], rfl, fun _ _ _ hlater => absurd hlater.symm (List.cons_ne_nil _ _)⟩
  | forwarded hsends hsends' hcheck hforwards =>
    obtain ⟨_, _, rfl, -⟩ := hsends.of_completes hversion
    obtain ⟨rfl, -⟩ := hencrypted hsends'
    exact ⟨_, _, _, _, rfl, fun _ _ _ hlater => hforwards.succeeds hregister hlater⟩

/-- The agent answers a body to whatever it is asked; all else is answered by the crypto service. -/
def bodyHost (body : Bytes) : Service.Host Unit :=
  { zeroHost with
    exchange := fun request => pure <| .answered <|
      if request.url.port = some 8301 then ⟨200, body, true⟩ else zeroService request }

def bodyEnvironment (body : Bytes) : Environment (Traced Unit) where
  toPeers := .overHttp (bodyHost body).send zeroDeployment.agents zeroClient
  challenges := .ofNumber
  listNodes := pure (.ok [])
  apply _ _ := pure (.ok ())
  probe _ := pure true

theorem bodyHost_agent (body : Bytes) (hport : request.url.port = some 8301) (now : Instant)
    (w : Unit) : ((bodyHost body).exchange request now w).value = .answered ⟨200, body, true⟩ := by
  show Http.Reply.answered (if request.url.port = some 8301 then _ else _) = _
  rw [if_pos hport]

theorem bodyHost_register (body : Bytes) (name : String) :
    (zeroClient.register name).Completes (bodyHost body).exchange := by
  have hurl : (zeroClient.register name).destination = .ok (serviceUrl "/client") :=
    zeroClient_destination (by simp)
  refine ⟨_, hurl, fun now w => ⟨[], ?_⟩⟩
  show Http.Reply.answered (if (serviceUrl "/client").port = some 8301 then _ else _) = _
  rw [if_neg (by decide)]
  exact congrArg _ (zeroService_client rfl (Crypto.Client.asks_call hurl).read)

theorem zeroClient_isAddressable : zeroClient.IsAddressable := by
  intro path hpath
  have hmem : path ∈ ["/client", "/encrypt", "/decrypt"] := by
    simp only [List.mem_cons, List.not_mem_nil, or_false] at hpath ⊢
    tauto
  obtain ⟨hread, hsendable⟩ := read_serviceUrl path hmem
  cases hurl : Http.Url.read (zeroClient.baseUrl ++ path) with
  | error e =>
    rw [hurl] at hread
    cases hread
  | ok url =>
    rw [hurl] at hread
    obtain rfl := Option.some.inj hread
    exact ⟨_, rfl, hsendable⟩

/-- The worker at the address of the agent while its first attempt is under way. -/
def pendingIpv6Worker : NodeRecord := { pendingWorker with ip := "fd00::7" }

/-- The attempt on the worker whose agent answers a body. -/
def bodyAttempt (body : Bytes) :
    Except VerificationError Unit × NodeRecord × Session (Traced Unit) :=
  verify (bodyEnvironment body) sampleSettings.identity pendingIpv6Worker
    { world := { world := () } }

theorem bodyAttempt_sent (htrace : (bodyAttempt body).2.2.world.trace = sent) :
    ∃ liveness version request later,
      sent = .sent liveness version :: .sent request (.answered ⟨200, body, true⟩) :: later ∧
      ∀ registration reply later', later = .sent registration reply :: later' → reply.Succeeds := by
  let c := Challenge.ofNumber 0
  have hpeers : (bodyEnvironment body).toPeers =
      .overHttp (bodyHost body).send zeroDeployment.agents zeroClient := rfl
  have hpending : pendingIpv6Worker.challenge? = some c := rfl
  have hversion : (zeroDeployment.agents.version "fd00::7").destination =
    .ok (agentUrl "/version") :=
    agents_destination (by simp) rfl
  have hencrypt : (zeroDeployment.agents.encrypt "fd00::7" c.text).destination =
      .ok (agentUrl "/encrypt") := agents_destination (by simp) rfl
  have hattempt : ∃ sent', (bodyAttempt body).2.2.world.trace = [] ++ sent' ∧ _ :=
    verify_exchanges hpeers hpending _
  obtain ⟨sent', htrace', hexchanges⟩ := hattempt
  obtain rfl : sent = sent' := htrace.symm.trans htrace'
  exact hexchanges.of_completes ⟨_, hversion, fun now w => ⟨body, bodyHost_agent body rfl now w⟩⟩
    hencrypt (bodyHost_agent body rfl) (bodyHost_register body _)

/-- A byte behind a spelling makes it none, since the length is no multiple of four. -/
theorem not_isSpelling_concat (bytes : Bytes) (b : UInt8) :
    ¬ IsSpelling (Base64.encode bytes ++ [b]) := by
  rintro ⟨bytes', -, h⟩
  have hlength := congrArg List.length h
  rw [List.length_append, Base64.length_encode, Base64.length_encode, List.length_singleton]
    at hlength
  omega

end Admission
end NodeAdmission
