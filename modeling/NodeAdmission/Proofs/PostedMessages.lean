import NodeAdmission.Proofs.Exchange
import NodeAdmission.Proofs.RoundTrip

/-!
# What is posted is encrypted

The agent has encrypted what is posted to it, byte for byte, once, and nothing else. Who encrypts
for it and how is left open: any encryptor will do, and what it is asked for is written down beside
its state (`recorded`), so that the tasks can be counted. All that can go wrong is answered with
another status than 200, so that a client of the agent never takes it for a ciphertext.

* `Posts` — the requests that post a message: the method, the path, and a body that is a text,
  neither empty nor too long.
* `respond_of_posts`, `exists_refusal_of_not_posts` — a request is one of these, or it is refused
  without encrypting anything.
* `Reports` — how a ciphertext, an error and a breakdown of the encryptor are answered.
* `conclude_encrypt_eq_ok_iff` — what a client makes of such an answer.
* `encrypts_exactly_what_is_posted` — all of this for one request.
-/

namespace NodeAdmission.Agent

open Http (Answer Incoming RemoteError Work)

variable {m : Type → Type} [Monad m] [LawfulMonad m] {identity : Identity} {incoming : Incoming}
  {message : String}

/-- The request posts a message to be encrypted: a text that is not empty, in no more bytes than are
accepted. -/
structure Posts (incoming : Incoming) (message : String) : Prop where
  method : incoming.method = "POST"
  path : Http.pathOf incoming.target = "/encrypt"
  body : Utf8.encode message = incoming.body
  nonempty : message ≠ ""
  fits : incoming.body.length ≤ bodyLimit

/-! ### Either a message or a refusal -/

/-- A message that is posted is handed to the encryptor, in the name of the
agent and with its key. -/
theorem respond_of_posts (h : Posts incoming message) (encrypt : Encryptor m)
    (identity : Identity) :
    (interface encrypt identity).respond incoming =
      (·.answer encryptAnswer) <$> encrypt identity.clientName identity.keyName message := by
  rw [respond_encrypt h.method h.path,
    encryptPosted_accepted (messageOf_eq_ok_iff.mpr ⟨h.body, h.nonempty, h.fits⟩)]

/-- What posts no message is answered at once, and if it was posted, not with status 200. -/
theorem exists_refusal_of_not_posts (h : ¬ ∃ message, Posts incoming message)
    (encrypt : Encryptor m)
    (identity : Identity) :
    ∃ answer : Answer, (interface encrypt identity).respond incoming = pure answer ∧
      (incoming.method = "POST" → answer.status ≠ 200) ∧
      (incoming.method = "POST" → Http.pathOf incoming.target = "/encrypt" →
        answer.status = if incoming.body.length > bodyLimit then 413 else 400) := by
  by_cases hencrypt : incoming.method = "POST" ∧ Http.pathOf incoming.target = "/encrypt"
  · obtain ⟨hpost, hpath⟩ := hencrypt
    -- On the right path with the right method, it can only be the body.
    cases hmessage : messageOf incoming.body with
    | ok message =>
      obtain ⟨hbody, hne, hfits⟩ := messageOf_eq_ok_iff.mp hmessage
      exact absurd ⟨message, hpost, hpath, hbody, hne, hfits⟩ h
    | error refusal =>
      have hstatus := status_of_messageOf hmessage
      refine ⟨refusal, ?_, fun _ => ?_, fun _ _ => hstatus⟩
      · rw [respond_encrypt hpost hpath, encryptPosted_refused hmessage]
      · rw [hstatus]
        split_ifs <;> decide
  · obtain ⟨answer, hanswer, hrefused⟩ := respond_other encrypt identity hencrypt
    exact ⟨answer, hanswer, hrefused, fun hpost hpath => absurd ⟨hpost, hpath⟩ hencrypt⟩

/-! ### What somebody is asked to encrypt -/

structure Task where
  clientName : String
  keyName : String
  message : String
deriving DecidableEq, Repr

/-- Encrypts as before, and writes down what is asked for. -/
def recorded (encrypt : Encryptor (Timed ω)) : Encryptor (Timed (ω × List Task)) :=
  fun client key message now w =>
    let r := encrypt client key message now w.1
    ⟨r.value, r.elapsed, (r.world, w.2 ++ [⟨client, key, message⟩])⟩

/-- How the outcome of encrypting is answered. -/
structure Reports (work : Work (Except RemoteError String)) (answer : Answer) : Prop where
  encrypted : ∀ text, work = .finished (.ok text) →
    answer.status = 200 ∧ answer.body = Utf8.encode text
  failed : ∀ e, work = .finished (.error e) → answer.status = 500 ∧
    answer.contentType = some Answer.json ∧
    Http.ErrorReport.decoder.decode answer.body = .ok ⟨e.message⟩
  brokeDown : work = .brokeDown → answer.status = 500

theorem reports_answer (work : Work (Except RemoteError String)) :
    Reports work (work.answer encryptAnswer) where
  encrypted := by
    rintro text rfl
    exact ⟨rfl, rfl⟩
  failed := by
    rintro e rfl
    exact ⟨rfl, rfl, Answer.decode_report 500 e.message⟩
  brokeDown := by
    rintro rfl
    rfl

/-- A client of the agent gets a text out of what the agent answers exactly if the whole of it
arrives and it was encrypted, and then it is this text. -/
theorem conclude_encrypt_eq_ok_iff {work : Work (Except RemoteError String)} (client : Client)
    (ip challenge : String) (url : Http.Url) (complete : Bool) (text : String) :
    (client.encrypt ip challenge).conclude url
        (.answered ⟨(work.answer encryptAnswer).status, (work.answer encryptAnswer).body,
          complete⟩) =
      .ok text ↔ complete = true ∧ work = .finished (.ok text) := by
  rw [Http.Call.conclude_eq_ok_iff]
  constructor
  · rintro ⟨response, hreply, hstatus, hread⟩
    obtain rfl := Http.Reply.answered.inj hreply
    obtain ⟨hcomplete, htext⟩ := Http.Call.of_readText hread
    -- Only a ciphertext is answered with status 200.
    obtain ⟨ciphertext, rfl⟩ := finished_of_status hstatus
    have hsame : text = ciphertext := htext.trans (Utf8.decodeLossy_encode ciphertext)
    exact ⟨hcomplete, by rw [hsame]⟩
  · rintro ⟨rfl, rfl⟩
    exact ⟨_, rfl, rfl, congrArg Except.ok (Utf8.decodeLossy_encode text)⟩

/-- What the agent does for a request, whatever is posted and whatever becomes of the encrypting. A
message that is posted is encrypted once, in the name of the agent and with its key, and the outcome
is the answer. For any other request nothing is encrypted; if it posts something to `/encrypt`, it
is refused for its size or else for its content. Of an answer to something that was posted, a client
of the agents makes a text exactly if it was encrypted, and then the same text. -/
theorem encrypts_exactly_what_is_posted (encrypt : Encryptor (Timed ω)) (identity : Identity)
    (incoming : Incoming) (now : Instant) (w : ω) (tasks : List Task) :
    let r := (interface (recorded encrypt) identity).respond incoming now (w, tasks)
    (∀ message, Posts incoming message →
      let work := (encrypt identity.clientName identity.keyName message now w).value
      r.world.2 = tasks ++ [⟨identity.clientName, identity.keyName, message⟩] ∧
        Reports work r.value) ∧
    ((¬ ∃ message, Posts incoming message) → r.world = (w, tasks) ∧
      (incoming.method = "POST" → Http.pathOf incoming.target = "/encrypt" →
        r.value.status = if incoming.body.length > bodyLimit then 413 else 400)) ∧
    (incoming.method = "POST" → ∀ (client : Client) (ip challenge : String) (url : Http.Url)
      (complete : Bool) (text : String),
        (client.encrypt ip challenge).conclude url
            (.answered ⟨r.value.status, r.value.body, complete⟩) = .ok text ↔
          complete = true ∧ ∃ message, Posts incoming message ∧
            (encrypt identity.clientName identity.keyName message now w).value =
              .finished (.ok text)) := by
  intro r
  have hposts : ∀ message, Posts incoming message →
      let encrypted := encrypt identity.clientName identity.keyName message now w
      r.value = encrypted.value.answer encryptAnswer ∧
        r.world =
          (encrypted.world, tasks ++ [⟨identity.clientName, identity.keyName, message⟩]) := by
    intro message h encrypted
    simp only [r, respond_of_posts h]
    exact ⟨rfl, rfl⟩
  have hunposted : (¬ ∃ message, Posts incoming message) → r.world = (w, tasks) ∧
      (incoming.method = "POST" → r.value.status ≠ 200) ∧
      (incoming.method = "POST" → Http.pathOf incoming.target = "/encrypt" →
        r.value.status = if incoming.body.length > bodyLimit then 413 else 400) := by
    intro h
    obtain ⟨answer, hanswer, hrefused, hstatus⟩ :=
      exists_refusal_of_not_posts h (recorded encrypt) identity
    simp only [r, hanswer]
    exact ⟨rfl, hrefused, hstatus⟩
  refine ⟨?_, ?_, ?_⟩
  · intro message h work
    obtain ⟨hvalue, hworld⟩ := hposts message h
    rw [hvalue, hworld]
    exact ⟨rfl, reports_answer work⟩
  · intro h
    exact ⟨(hunposted h).1, (hunposted h).2.2⟩
  · intro hpost client ip challenge url complete text
    by_cases h : ∃ message, Posts incoming message
    · obtain ⟨message, hmessage⟩ := h
      rw [(hposts message hmessage).1, conclude_encrypt_eq_ok_iff]
      refine and_congr_right fun _ => ⟨fun hwork => ⟨message, hmessage, hwork⟩, ?_⟩
      rintro ⟨other, hother, hwork⟩
      -- A body is the bytes of one text only.
      obtain rfl := Utf8.encode_injective (hother.body.trans hmessage.body.symm)
      exact hwork
    · constructor
      · intro htext
        obtain ⟨response, hreply, hstatus, -⟩ := Http.Call.conclude_eq_ok_iff.mp htext
        obtain rfl := Http.Reply.answered.inj hreply
        exact absurd hstatus ((hunposted h).2.1 hpost)
      · rintro ⟨-, message, hmessage, -⟩
        exact absurd ⟨message, hmessage⟩ h

end NodeAdmission.Agent
