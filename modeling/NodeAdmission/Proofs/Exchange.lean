import NodeAdmission.Agent.Client
import NodeAdmission.Agent.Service
import NodeAdmission.Proofs.Base64
import NodeAdmission.Proofs.Utf8
import NodeAdmission.Proofs.Wire

/-!
# From call to call

How a message gets from a client of an agent through the agent to the crypto service of its
node, and how the ciphertext gets back. The message is posted as plain text, read by the agent
and posted again as JSON; the ciphertext is base64, answered as text by the service and again by
the agent. Nothing is lost on the way: what the client has in the end is the spelling of a
ciphertext of just its message.

* `Http.Call.Completes`, `Http.Call.ServedBy` — a call comes through, and its answer is the one
  of some routes. The two are separate, for the first is about the network and the second about
  who is at the other end.
* `Http.Call.answered_of_perform` — a call that succeeds was answered with status 200.
* `Crypto.Encrypts`, `Crypto.Decrypts` — what the service makes of requests, with `Seals` for the
  relation of its messages and ciphertexts.
* `Agent.respond_of_status`, `Agent.sealed_of_encryptor` — what the agent answers with status 200
  comes from the service, for the message that was posted.
* `Agent.encrypt_answer` — the whole way there and back.

There are two places where bytes become a text. On the way there the agent reads strictly, and it
reads what a client has written. On the way back both clients read leniently, which would lose
something in general; but a spelling is ASCII.
-/

namespace NodeAdmission

open Service (Host Traced)

/-! ### Calls that complete

What comes of a call depends on the URL that is read, on the reply, and on the reader of the body.
The lemmas fix the first two one after the other, so that the reader is left. -/

namespace Http

/-- What arrives of a request is what its peer sees of it, with headers of any kind. -/
structure Request.Arrives (request : Request) (incoming : Incoming) : Prop where
  method : incoming.method = request.methodSeen
  target : incoming.target = request.targetSeen
  body : incoming.body = request.bodySeen

namespace Call

variable {α : Type} {exchange : Exchange (Timed ω)} {call : Call α} {url : Url} {a : α}

/-- The call can be sent, and whenever it is sent a whole answer with status 200 comes back. -/
def Completes (exchange : Exchange (Timed ω)) (call : Call α) : Prop :=
  ∃ url, call.destination = .ok url ∧
    ∀ now w, ∃ body, (exchange (call.request url) now w).value = .answered ⟨200, body, true⟩

/-- The call is answered by the routes: what comes back is what they answer, at some time and in
some state of theirs, to what arrives of its request. -/
def ServedBy (exchange : Exchange (Timed ω)) (routes : Interface (Timed ω')) (call : Call α) :
    Prop :=
  ∀ url now w, call.destination = .ok url → ∃ incoming now' w',
    (call.request url).Arrives incoming ∧
      let answer := (routes.respond incoming now' w').value
      (exchange (call.request url) now w).value = .answered ⟨answer.status, answer.body, true⟩

/-- A call goes to the URL that is read of its text, if anything can be sent there. -/
theorem destination_eq_ok_iff :
    call.destination = .ok url ↔ Url.read call.url = .ok url ∧ url.isSendable = true := by
  unfold destination
  cases Url.read call.url with
  | error e => simp
  | ok u =>
    by_cases hsendable : u.isSendable = true
    · simp only [if_pos hsendable, Except.ok.injEq]
      exact ⟨fun h => ⟨h, h ▸ hsendable⟩, fun h => h.1⟩
    · simp only [if_neg hsendable, Except.ok.injEq]
      constructor
      · rintro ⟨⟩
      · rintro ⟨rfl, hsend⟩
        exact absurd hsend hsendable

theorem destination_of_toOption (hread : (Url.read call.url).toOption = some url)
    (hsendable : url.isSendable = true) : call.destination = .ok url := by
  refine destination_eq_ok_iff.mpr ⟨?_, hsendable⟩
  cases hurl : Url.read call.url with
  | error e =>
    rw [hurl] at hread
    cases hread
  | ok u =>
    rw [hurl] at hread
    rw [Option.some.inj hread]

theorem perform_of_destination (h : call.destination = .ok url) (now : Instant) (w : ω) :
    (call.perform exchange now w).value =
      call.conclude url (exchange (call.request url) now w).value := by
  rw [perform, h]
  rfl

/-- A call that completes ends with what its reader makes of the answer. -/
theorem Completes.perform (h : call.Completes exchange) (now : Instant) (w : ω) :
    ∃ url body, call.destination = .ok url ∧
      (exchange (call.request url) now w).value = .answered ⟨200, body, true⟩ ∧
      (call.perform exchange now w).value = call.read ⟨200, body, true⟩ := by
  obtain ⟨url, hurl, hanswered⟩ := h
  obtain ⟨body, hbody⟩ := hanswered now w
  refine ⟨url, body, hurl, hbody, ?_⟩
  rw [perform_of_destination hurl, hbody]
  rfl

/-- Only an answer with status 200 makes a call succeed. -/
theorem conclude_eq_ok_iff {reply : Reply} :
    call.conclude url reply = .ok a ↔
      ∃ response, reply = .answered response ∧ response.status = 200 ∧
        call.read response = .ok a := by
  cases reply with
  | failed stage => exact ⟨nofun, nofun⟩
  | answered response =>
    rw [conclude]
    constructor
    · intro h
      by_cases hstatus : response.status = 200
      · rw [if_pos hstatus] at h
        exact ⟨response, rfl, hstatus, h⟩
      · rw [if_neg hstatus] at h
        cases h
    · rintro ⟨_, hreply, hstatus, hread⟩
      obtain rfl := Reply.answered.inj hreply
      rw [if_pos hstatus, hread]

/-- A call that succeeds was sent and was answered with status 200. -/
theorem answered_of_perform {now : Instant} {w : ω}
    (h : (call.perform exchange now w).value = .ok a) :
    ∃ url response, call.destination = .ok url ∧
      (exchange (call.request url) now w).value = .answered response ∧ response.status = 200 ∧
      call.read response = .ok a := by
  cases hurl : call.destination with
  | error failure =>
    rw [Call.perform, hurl] at h
    cases h
  | ok url =>
    rw [perform_of_destination hurl] at h
    obtain ⟨response, hreply, hstatus, hread⟩ := conclude_eq_ok_iff.mp h
    exact ⟨url, response, rfl, hreply, hstatus, hread⟩

theorem of_readText {response : Response} {text : String} (h : readText response = .ok text) :
    response.complete = true ∧ text = Utf8.decodeLossy response.body := by
  rw [readText, readBytes] at h
  cases hcomplete : response.complete with
  | false =>
    rw [hcomplete] at h
    cases h
  | true =>
    rw [hcomplete] at h
    cases h
    exact ⟨rfl, rfl⟩

end Call

theorem Interface.mem_of_route? {m : Type → Type} {routes : Interface m} {path : String}
    {route : Route m} (h : routes.route? path = some route) : (path, route) ∈ routes := by
  rw [route?, Option.map_eq_some_iff] at h
  obtain ⟨⟨path', route'⟩, hfind, rfl⟩ := h
  obtain rfl : path' = path := by simpa using List.find?_some hfind
  exact List.mem_of_find?_eq_some hfind

/-! ### Reading a path -/

def Incoming.Reads (request : Incoming) : Prop := request.method = "GET" ∨ request.method = "HEAD"

instance (request : Incoming) : Decidable request.Reads := inferInstanceAs (Decidable (_ ∨ _))

theorem Incoming.not_reads_of_post {request : Incoming} (h : request.method = "POST") :
    ¬ request.Reads := by
  rw [Reads, h]
  decide

/-- What a reader gets of an answer: the whole of it, or all but its body. -/
def Incoming.part (request : Incoming) (answer : Answer) : Answer :=
  if request.method = "GET" then answer else answer.withoutBody

@[simp] theorem Incoming.part_status (request : Incoming) (answer : Answer) :
    (request.part answer).status = answer.status := by
  unfold part
  split_ifs <;> rfl

theorem Incoming.part_of_get {request : Incoming} (hget : request.method = "GET")
    (answer : Answer) :
    request.part answer = answer := if_pos hget

namespace Interface

variable {m : Type → Type} [Monad m] {request : Incoming}

/-- A request that reads gets its part of what the handler answers. -/
theorem serve_get_of_reads [LawfulMonad m] (h : request.Reads) (handler : m Answer) :
    serve request (.get handler) = request.part <$> handler := by
  by_cases hget : request.method = "GET"
  · have hpart : request.part = id := funext (Incoming.part_of_get hget)
    rw [serve, if_pos hget, hpart, id_map]
  · have hpart : request.part = Answer.withoutBody := funext fun answer => if_neg hget
    rw [serve, if_neg hget, if_pos (h.resolve_left hget), hpart, bind_pure_comp]

theorem serve_get_of_not_reads (h : ¬ request.Reads) (handler : m Answer) :
    serve request (.get handler) = pure (.methodNotAllowed "GET,HEAD") := by
  obtain ⟨hget, hhead⟩ := not_or.mp h
  rw [serve, if_neg hget, if_neg hhead]

end Interface
end Http

/-! ### Crypto services -/

namespace Crypto

variable {client : Client} {path : String} {q : Request} {url : Http.Url}

/-- The request asks the service of a client for something: it posts to the path, below the URL of
the service, and its body reads as `q`. -/
structure Asks (client : Client) (path : String) (q : Request) (request : Http.Request) : Prop where
  posted : request.method = .post
  addressed : Http.Url.read (client.baseUrl ++ path) = .ok request.url
  typed : request.contentType = some "application/json"
  read : Request.decoder.decode request.body = .ok q

/-- The service encrypts for a client identity: it answers a message with the spelling of one of its
ciphertexts, if it answers with status 200. -/
def Encrypts (exchange : Http.Exchange (Timed ω)) (client : Client) (name key : String)
    (Seals : String → Bytes → Prop) : Prop :=
  ∀ message request now w body,
    Asks client "/encrypt" ((Request.key name key).withMessage message) request →
    (exchange request now w).value = .answered ⟨200, body, true⟩ →
      ∃ ciphertext, ciphertext ≠ [] ∧ Seals message ciphertext ∧ body = Base64.encode ciphertext

/-- The service decrypts for a client identity: it answers the spelling of a ciphertext with the
message, if it answers with status 200. -/
def Decrypts (exchange : Http.Exchange (Timed ω)) (client : Client) (name key : String)
    (Seals : String → Bytes → Prop) : Prop :=
  ∀ message ciphertext text request now w body, Seals message ciphertext →
    Utf8.encode text = Base64.encode ciphertext →
    Asks client "/decrypt" ((Request.key name key).withMessage text) request →
    (exchange request now w).value = .answered ⟨200, body, true⟩ → body = Utf8.encode message

/-- A call of a client asks the service for what it says. -/
theorem Client.asks_call {α : Type} {read : Http.Response → Except Http.RemoteError α}
    (h : (client.call .post path q read).destination = .ok url) :
    Asks client path q ((client.call .post path q read).request url) where
  posted := rfl
  addressed := (Http.Call.destination_eq_ok_iff.mp h).1
  typed := rfl
  read := Request.decode_toJson q

end Crypto

/-! ### The agent

First what the agent makes of a request, as far as the request tells it: a refusal, or the question
to the encryptor. Then what comes of the question. `encrypt_answer` joins this to the call of a
client on the one side and to the crypto service on the other. -/

namespace Agent

open Http (Answer Incoming Interface Work)

variable {encrypt : Encryptor (Timed ω)} {identity : Identity} {incoming : Incoming}
  {Seals : String → Bytes → Prop}

/-- The agent takes a posted text for what it is. -/
theorem eq_of_messageOf {text message : String} (h : messageOf (Utf8.encode text) = .ok message) :
    message = text := by
  rw [messageOf, Utf8.decode_encode] at h
  split at h
  · cases h
  dsimp only at h
  split at h
  · cases h
  · exact (Except.ok.inj h).symm

/-- A body is taken for a message just if it is the text of one, short enough and not empty. -/
theorem messageOf_eq_ok_iff {body : Bytes} {message : String} :
    messageOf body = .ok message ↔
      Utf8.encode message = body ∧ message ≠ "" ∧ body.length ≤ bodyLimit := by
  unfold messageOf
  -- The three checks one after another: length, encoding, emptiness.
  by_cases hlength : body.length > bodyLimit
  · rw [if_pos hlength]
    exact ⟨nofun, fun h => absurd h.2.2 (Nat.not_le.mpr hlength)⟩
  rw [if_neg hlength]
  cases hread : Utf8.decode body with
  | error e =>
    refine ⟨nofun, ?_⟩
    rintro ⟨rfl, -⟩
    rw [Utf8.decode_encode] at hread
    cases hread
  | ok text =>
    obtain rfl := Utf8.decode_eq_ok_iff.mp hread
    by_cases hempty : text = ""
    · simp only [if_pos hempty]
      refine ⟨nofun, ?_⟩
      rintro ⟨hsame, hne, -⟩
      exact absurd ((Utf8.encode_injective hsame).trans hempty) hne
    · simp only [if_neg hempty, Except.ok.injEq]
      constructor
      · rintro rfl
        exact ⟨rfl, hempty, Nat.not_lt.mp hlength⟩
      · rintro ⟨hsame, -⟩
        exact (Utf8.encode_injective hsame).symm

/-- Why a body was refused is told by the status. -/
theorem status_of_messageOf {body : Bytes} {refusal : Answer}
    (h : messageOf body = .error refusal) :
    refusal.status = if body.length > bodyLimit then 413 else 400 := by
  unfold messageOf at h
  split_ifs at h ⊢
  · cases h
    rfl
  split at h
  · cases h
    rfl
  split at h
  · cases h
    rfl
  · cases h

section

variable {m : Type → Type} [Monad m] {encrypt : Encryptor m} {body : Bytes} {message : String}
  {refusal : Answer}

theorem encryptPosted_refused (h : messageOf body = .error refusal) :
    encryptPosted encrypt identity body = pure refusal := by
  rw [encryptPosted, h]

/-- What is made of a message is the answer to it. -/
theorem encryptPosted_accepted [LawfulMonad m] (h : messageOf body = .ok message) :
    encryptPosted encrypt identity body =
      (·.answer encryptAnswer) <$> encrypt identity.clientName identity.keyName message := by
  rw [encryptPosted, h]
  exact bind_pure_comp _ _

theorem respond_encrypt (hpost : incoming.method = "POST")
    (hpath : Http.pathOf incoming.target = "/encrypt") :
    (interface encrypt identity).respond incoming =
      encryptPosted encrypt identity incoming.body := by
  have hroute : (interface encrypt identity).route? "/encrypt" =
      some (.post (encryptPosted encrypt identity)) := rfl
  rw [Interface.respond, hpath, hroute]
  exact if_pos hpost

/-- Nobody is asked to encrypt anything for a request that does not post to `/encrypt`, and what is
posted elsewhere is refused. -/
theorem respond_other [LawfulMonad m] (encrypt : Encryptor m) (identity : Identity)
    (h : ¬ (incoming.method = "POST" ∧ Http.pathOf incoming.target = "/encrypt")) :
    ∃ answer : Answer, (interface encrypt identity).respond incoming = pure answer ∧
      (incoming.method = "POST" → answer.status ≠ 200) := by
  rw [Interface.respond]
  cases hroute : (interface encrypt identity).route? (Http.pathOf incoming.target) with
  | none => exact ⟨.notFound, rfl, fun _ => by decide⟩
  | some route =>
    have hmem := Interface.mem_of_route? hroute
    simp only [interface, List.mem_cons, List.not_mem_nil, or_false, Prod.mk.injEq] at hmem
    -- The two paths that are read answer without asking anybody.
    have hreading : ∀ shown : Answer, ∃ answer : Answer,
        Interface.serve incoming (.get (pure shown : m Answer)) = pure answer ∧
          (incoming.method = "POST" → answer.status ≠ 200) := by
      intro shown
      by_cases hreads : incoming.Reads
      · rw [Interface.serve_get_of_reads hreads, map_pure]
        exact ⟨_, rfl, fun hpost => absurd hreads (Http.Incoming.not_reads_of_post hpost)⟩
      · exact ⟨_, Interface.serve_get_of_not_reads hreads _, fun _ => by decide⟩
    rcases hmem with ⟨-, rfl⟩ | ⟨-, rfl⟩ | ⟨hpath, rfl⟩
    · exact hreading _
    · exact hreading _
    · exact ⟨.methodNotAllowed "POST", if_neg fun hpost => h ⟨hpost, hpath⟩, fun _ => by decide⟩

end

/-- Only a ciphertext is answered with status 200. -/
theorem finished_of_status {work : Work (Except Http.RemoteError String)}
    (h : (work.answer encryptAnswer).status = 200) :
    ∃ ciphertext, work = .finished (.ok ciphertext) := by
  cases work with
  | brokeDown => exact absurd h (by decide)
  | finished result =>
    cases result with
    | error e =>
      have hstatus : (500 : UInt16) = 200 := h
      exact absurd hstatus (by decide)
    | ok ciphertext => exact ⟨ciphertext, rfl⟩

/-- A posted body is answered with status 200 only if it was a message and was encrypted. -/
theorem encryptPosted_of_status {now : Instant} {w : ω} {body : Bytes}
    (h : (encryptPosted encrypt identity body now w).value.status = 200) :
    ∃ message ciphertext, messageOf body = .ok message ∧
      (encrypt identity.clientName identity.keyName message now w).value =
        .finished (.ok ciphertext) ∧
      (encryptPosted encrypt identity body now w).value = .text 200 ciphertext := by
  cases hmessage : messageOf body with
  | error refusal =>
    rw [encryptPosted_refused hmessage] at h
    have hrefused : refusal.status = 200 := h
    rw [status_of_messageOf hmessage] at hrefused
    -- A refusal has the status 413 or 400.
    split_ifs at hrefused
    · exact absurd hrefused (by decide)
    · exact absurd hrefused (by decide)
  | ok message =>
    rw [encryptPosted_accepted hmessage, Timed.map_apply] at h ⊢
    obtain ⟨ciphertext, hwork⟩ := finished_of_status h
    refine ⟨message, ciphertext, rfl, hwork, ?_⟩
    rw [hwork]
    rfl

/-- What the agent answers with status 200 to something that is posted is a ciphertext. -/
theorem respond_of_status {now : Instant} {w : ω} (hpost : incoming.method = "POST")
    (hstatus : ((interface encrypt identity).respond incoming now w).value.status = 200) :
    ∃ message ciphertext, messageOf incoming.body = .ok message ∧
      (encrypt identity.clientName identity.keyName message now w).value =
        .finished (.ok ciphertext) ∧
      ((interface encrypt identity).respond incoming now w).value = .text 200 ciphertext := by
  by_cases hpath : Http.pathOf incoming.target = "/encrypt"
  · rw [respond_encrypt hpost hpath] at hstatus ⊢
    exact encryptPosted_of_status hstatus
  · have hother : ¬ (incoming.method = "POST" ∧ Http.pathOf incoming.target = "/encrypt") :=
      fun h => hpath h.2
    obtain ⟨answer, hanswer, hrefused⟩ := respond_other encrypt identity hother
    rw [hanswer] at hstatus
    exact absurd hstatus (hrefused hpost)

/-- A message that is posted and encrypted is answered with its ciphertext. -/
theorem respond_posted {now : Instant} {w : ω} {message ciphertext : String}
    (hpost : incoming.method = "POST") (hpath : Http.pathOf incoming.target = "/encrypt")
    (hmessage : messageOf incoming.body = .ok message)
    (hencrypted : (encrypt identity.clientName identity.keyName message now w).value =
      .finished (.ok ciphertext)) :
    ((interface encrypt identity).respond incoming now w).value = .text 200 ciphertext := by
  rw [respond_encrypt hpost hpath, encryptPosted_accepted hmessage, Timed.map_apply, hencrypted]
  rfl

/-- What the agent has encrypted is what its crypto service made of the message. -/
theorem sealed_of_encryptor {host : Host ω} {crypto : Crypto.Client}
    (hencrypts : Crypto.Encrypts host.exchange crypto identity.clientName identity.keyName Seals)
    {message text : String} {now : Instant} {t : Traced ω}
    (h : (encryptor host crypto identity.clientName identity.keyName message now t).value =
      .finished (.ok text)) :
    ∃ ciphertext, ciphertext ≠ [] ∧ Seals message ciphertext ∧
      Utf8.encode text = Base64.encode ciphertext := by
  have hperformed : ((crypto.encrypt identity.clientName identity.keyName message).perform host.send
      now t).value = .ok text := Work.finished.inj h
  -- The call of the agent to its service has succeeded, so there was an answer.
  obtain ⟨url, response, hurl, hanswered, hstatus, hread⟩ :=
    Http.Call.answered_of_perform hperformed
  obtain ⟨hcomplete, rfl⟩ := Http.Call.of_readText hread
  obtain ⟨status, body, complete⟩ := response
  obtain rfl : status = 200 := hstatus
  obtain rfl : complete = true := hcomplete
  obtain ⟨ciphertext, hne, hseals, rfl⟩ :=
    hencrypts message _ now t.world body (Crypto.Client.asks_call hurl) hanswered
  -- The lenient reader leaves the spelling as it is, for it is ASCII.
  exact ⟨ciphertext, hne, hseals,
    Utf8.encode_decodeLossy fun _ hmem => Base64.toNat_lt_of_mem_encode hmem⟩

/-- A client of the agent that posts a message gets the spelling of a ciphertext of just this
message. -/
theorem encrypt_answer {exchange : Http.Exchange (Timed ω)} {client : Client} {ip message : String}
    {host : Host ω'} {crypto : Crypto.Client}
    (hencrypts : Crypto.Encrypts host.exchange crypto identity.clientName identity.keyName Seals)
    (hserved : (client.encrypt ip message).ServedBy exchange
      (interface (encryptor host crypto) identity))
    (hcompletes : (client.encrypt ip message).Completes exchange) (now : Instant) (w : ω) :
    ∃ text ciphertext, ((client.encrypt ip message).perform exchange now w).value = .ok text ∧
      Utf8.encode text = Base64.encode ciphertext ∧ ciphertext ≠ [] ∧ Seals message ciphertext := by
  obtain ⟨url, body, hurl, hanswered, hperformed⟩ := hcompletes.perform now w
  obtain ⟨incoming, now', t, harrives, hanswer⟩ := hserved url now w hurl
  rw [hanswered] at hanswer
  have hpost : incoming.method = "POST" := harrives.method
  have hbody : incoming.body = Utf8.encode message := harrives.body
  obtain ⟨hstatus, hrest⟩ := Http.Response.mk.inj (Http.Reply.answered.inj hanswer)
  obtain ⟨posted, text, hmessage, hencrypted, hresponse⟩ := respond_of_status hpost hstatus.symm
  -- On the way there: what the agent sends on is the message.
  rw [hbody] at hmessage
  obtain rfl := eq_of_messageOf hmessage
  obtain ⟨ciphertext, hne, hseals, hspelling⟩ := sealed_of_encryptor hencrypts hencrypted
  -- On the way back: the client reads the text that the agent has read.
  have htext : body = Utf8.encode text := by
    rw [hrest.1, hresponse]
    rfl
  refine ⟨text, ciphertext, ?_, hspelling, hne, hseals⟩
  rw [hperformed, htext]
  exact congrArg Except.ok (Utf8.decodeLossy_encode text)

end Agent
end NodeAdmission
