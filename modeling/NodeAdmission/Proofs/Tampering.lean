import NodeAdmission.Proofs.Attempt
import NodeAdmission.Proofs.Ciphertext
import NodeAdmission.Proofs.Provenance

/-!
# Tampering

A crypto service that opens ciphertexts one to one admits a single answer to a challenge: the base64
spelling of what it opens as the challenge. Three things make it the only one.

1. The reader of base64 accepts no other spelling of the same bytes (`Base64.decode_eq_ok_iff`).
2. The service opens no other bytes as the challenge, which is the hypothesis on `D`.
3. The plaintext is compared byte for byte.

`Opens` says how the service behaves, with `D` for its key; `Proves` says which body is the right
one. `Opens.outcome` follows an attempt through the three checks and finds that every other answer
is a mismatch, but for the empty one, be it refused by the reader, by the service or by the
comparison. Main statement: `verify_accepts_one_body`.

The hypothesis that the service refuses with an answer (`refuses`) is needed. If it could not be
reached the attempt would fail as well, but that is a fault of the service and no mismatch.
-/

namespace NodeAdmission.Admission

variable {env : Environment ω} {identity : Identity} {D : Bytes → Option Bytes} {r : NodeRecord}
  {c : Challenge} {s : Session ω} {v body body' : String} {bytes plaintext : Bytes}

/-- The crypto service registers whoever asks, and it opens a ciphertext by way of `D`: where `D` is
undefined it answers with a refusal. -/
structure Opens (env : Environment ω) (identity : Identity) (D : Bytes → Option Bytes) : Prop where
  registers : ∀ now w, (env.register identity.clientName now w).value = .ok ()
  opens : ∀ body bytes plaintext now w, Base64.decode (Utf8.encode body) = .ok bytes →
    D bytes = some plaintext →
      (env.decrypt identity.clientName identity.keyName body now w).value = .ok plaintext
  refuses : ∀ body bytes now w, Base64.decode (Utf8.encode body) = .ok bytes → D bytes = none →
    ∃ e, (env.decrypt identity.clientName identity.keyName body now w).value = .error e ∧
      e.isAnswer = true

/-- The body is the base64 spelling, not an empty one, of what `D` opens as the challenge. -/
def Proves (D : Bytes → Option Bytes) (c : Challenge) (body : String) : Prop :=
  body ≠ "" ∧ ∃ bytes, Utf8.encode body = Base64.encode bytes ∧ D bytes = some (Utf8.encode c.text)

/-- When `D` opens no two ciphertexts alike, one body at most proves a challenge. -/
theorem Proves.unique (hinj : ∀ x y p, D x = some p → D y = some p → x = y)
    (h : Proves D c body) (h' : Proves D c body') : body = body' := by
  obtain ⟨-, x, hx, hopen⟩ := h
  obtain ⟨-, y, hy, hopen'⟩ := h'
  obtain rfl := hinj x y _ hopen hopen'
  exact Utf8.encode_injective (hx.trans hy.symm)

/-- Of a body that can be read, only the bytes matter. -/
theorem proves_iff_of_decode (hbody : body ≠ "")
    (hdecode : Base64.decode (Utf8.encode body) = .ok bytes) :
    Proves D c body ↔ D bytes = some (Utf8.encode c.text) := by
  have hbytes := Base64.decode_eq_ok_iff.mp hdecode
  constructor
  · rintro ⟨-, x, hx, hopen⟩
    have hx := Base64.decode_eq_ok_iff.mpr hx
    rw [hdecode] at hx
    cases hx
    exact hopen
  · exact fun hopen => ⟨hbody, bytes, hbytes, hopen⟩

/-! ### What becomes of a body -/

/-- What the service and the comparison make of a ciphertext. -/
theorem Opens.judged (h : Opens env identity D)
    (hdecode : Base64.decode (Utf8.encode body) = .ok bytes) (now : Instant) (w : ω) :
    let result := judgeOpened c (env.decrypt identity.clientName identity.keyName body now w).value
    D bytes = some (Utf8.encode c.text) ∧ result = .ok () ∨
      D bytes ≠ some (Utf8.encode c.text) ∧
        ∃ detail, result = .error (.decryptMismatch detail) := by
  -- The service refuses the bytes, or it opens them and the plaintexts are compared.
  cases hD : D bytes with
  | none =>
    obtain ⟨e, hrefused, hanswer⟩ := h.refuses body bytes now w hdecode hD
    rw [hrefused, judgeOpened, decryptError, if_pos hanswer]
    exact .inr ⟨(Option.some_ne_none _).symm, _, rfl⟩
  | some plaintext =>
    rw [h.opens body bytes plaintext now w hdecode hD, judgeOpened, comparePlaintext, ← encode_text]
    by_cases heq : plaintext = Utf8.encode c.text
    · rw [if_pos heq, heq]
      exact .inl ⟨rfl, rfl⟩
    · rw [if_neg heq]
      exact .inr ⟨fun h => heq (Option.some.inj h), _, rfl⟩

/-- The three ends of an attempt whose agent answers `body`. -/
theorem Opens.outcome (h : Opens env identity D) (hc : r.challenge? = some c)
    (hversion : (s.version env r).1 = .ok v)
    (hbody : ((s.version env r).2.encrypt env r c).1 = .ok body) :
    let result := (verify env identity r s).1
    body = "" ∧ result = .error (.agentEncryptFailed "empty ciphertext") ∨
      Proves D c body ∧ result = .ok () ∨
      body ≠ "" ∧ ¬ Proves D c body ∧ ∃ detail, result = .error (.decryptMismatch detail) := by
  obtain ⟨now, w, hresult⟩ := verify_of_answers env identity hc hversion hbody h.registers
  rw [hresult]
  by_cases hempty : body = ""
  · rw [checkCiphertext, if_pos hempty]
    exact .inl ⟨hempty, rfl⟩
  refine .inr ?_
  cases hdecode : Base64.decode (Utf8.encode body) with
  | error e =>
    -- What cannot be read is the spelling of nothing.
    have hnot : ¬ Proves D c body := by
      rintro ⟨-, x, hx, -⟩
      rw [Base64.decode_eq_ok_iff.mpr hx] at hdecode
      cases hdecode
    rw [checkCiphertext, if_neg hempty, hdecode]
    exact .inr ⟨hempty, hnot, _, rfl⟩
  | ok bytes =>
    rw [checkCiphertext_of_decode hempty hdecode, proves_iff_of_decode hempty hdecode]
    rcases h.judged hdecode now w with ⟨hopen, hok⟩ | ⟨hopen, hmismatch⟩
    · exact .inl ⟨hopen, hok⟩
    · exact .inr ⟨hempty, hopen, hmismatch⟩

/-! ### One body at most -/

/-- An unverified record is verified by success, and by nothing else. -/
theorem NodeRecord.afterExchange_verified {now : Instant} {result : Except VerificationError Unit}
    (hunverified : r.verified = false) :
    (r.afterExchange now result).verified = true ↔ result = .ok () := by
  cases result with
  | error e =>
    have hkeeps : (r.afterExchange now (.error e)).verified = r.verified := rfl
    rw [hkeeps, hunverified]
    exact ⟨nofun, nofun⟩
  | ok u => exact iff_of_true rfl rfl

/-- Let the crypto service open ciphertexts by a partial function `D` that opens no two of them
alike. Then one body at most proves a challenge, and whatever an agent answers, the attempt succeeds
just on that body. An empty body is a failure of the agent, and every other body a mismatch; the
record is left unverified by both. -/
theorem verify_accepts_one_body (D : Bytes → Option Bytes) (c : Challenge)
    (hinj : ∀ x y p, D x = some p → D y = some p → x = y) :
    (∀ body body', Proves D c body → Proves D c body' → body = body') ∧
      ∀ (ω : Type) (env : Environment ω) (identity : Identity) (r : NodeRecord) (s : Session ω)
        (v body : String), Opens env identity D → r.challenge? = some c → r.verified = false →
        (s.version env r).1 = .ok v → ((s.version env r).2.encrypt env r c).1 = .ok body →
          let result := (verify env identity r s).1
          let r' := (verify env identity r s).2.1
          (result = .ok () ↔ Proves D c body) ∧ (r'.verified = true ↔ Proves D c body) ∧
          (body = "" → result = .error (.agentEncryptFailed "empty ciphertext")) ∧
          (body ≠ "" → ¬ Proves D c body →
            ∃ detail, result = .error (.decryptMismatch detail)) := by
  refine ⟨fun body body' h h' => h.unique hinj h', ?_⟩
  intro ω env identity r s v body hopens hc hunverified hversion hbody result r'
  -- There are three outcomes, and the body decides among them.
  have houtcome : body = "" ∧ result = _ ∨ Proves D c body ∧ result = .ok () ∨
      body ≠ "" ∧ ¬ Proves D c body ∧ ∃ detail, result = .error (.decryptMismatch detail) :=
    hopens.outcome hc hversion hbody
  -- Success is the middle one.
  have hok : result = .ok () ↔ Proves D c body := by
    rcases houtcome with ⟨rfl, hresult⟩ | ⟨hproves, hresult⟩ | ⟨-, hnot, detail, hresult⟩
    · rw [hresult]
      exact ⟨nofun, fun h => absurd rfl h.1⟩
    · exact iff_of_true hresult hproves
    · rw [hresult]
      exact ⟨nofun, fun h => absurd h hnot⟩
  refine ⟨hok, ?_, ?_, ?_⟩
  · rw [← hok]
    exact NodeRecord.afterExchange_verified hunverified
  · intro hempty
    rcases houtcome with ⟨-, hresult⟩ | ⟨⟨hne, -⟩, -⟩ | ⟨hne, -⟩
    · exact hresult
    · exact absurd hempty hne
    · exact absurd hempty hne
  · intro hne hnot
    rcases houtcome with ⟨hempty, -⟩ | ⟨hproves, -⟩ | ⟨-, -, hmismatch⟩
    · exact absurd hempty hne
    · exact absurd hproves hnot
    · exact hmismatch

/-! ### A tampered body -/

/-- The service opens what is base64 as it stands, and refuses everything else. -/
def openService (text : String) : Except Http.RemoteError Bytes :=
  match Base64.decode (Utf8.encode text) with
  | .ok bytes => .ok bytes
  | .error _ => .error (.unexpectedStatus 400 "")

/-- The agent of the worker answers one body to every challenge. -/
def answeringEnvironment (body : String) : Environment Unit :=
  { sampleEnvironment with
    encrypt := fun _ _ => pure (.ok body)
    decrypt := fun _ _ text => pure (openService text) }

/-- For this service every ciphertext is its own plaintext. -/
theorem answeringEnvironment_opens (body : String) (identity : Identity) :
    Opens (answeringEnvironment body) identity some where
  registers _ _ := rfl
  opens text bytes plaintext now w hdecode hopen := by
    show openService text = .ok plaintext
    rw [openService, hdecode, ← Option.some.inj hopen]
  refuses _ _ _ _ _ h := nomatch h

def pendingWorker : NodeRecord :=
  { name := "worker", ip := "10.0.0.7", challenge? := some (.ofNumber 0) }

/-- The spelling of the challenge proves it; without its padding it proves nothing. -/
theorem unpadded_body_refused :
    let c := Challenge.ofNumber 0
    let spelling := "QUFBQUFBQUFBQUFBQUFBQUFBQUFBQUFBQUFBQUFBQUE="
    let unpadded := "QUFBQUFBQUFBQUFBQUFBQUFBQUFBQUFBQUFBQUFBQUE"
    let outcome := fun body => (verify (answeringEnvironment body) sampleSettings.identity
      pendingWorker { world := () }).1
    Proves some c spelling ∧ outcome spelling = .ok () ∧ ¬ Proves some c unpadded ∧
      ∃ detail, outcome unpadded = .error (.decryptMismatch detail) := by
  intro c spelling unpadded outcome
  have hinj : ∀ x y p : Bytes, some x = some p → some y = some p → x = y :=
    fun x y p hx hy => Option.some.inj (hx.trans hy.symm)
  -- The environment opens a body as its own bytes, so the right body spells the challenge.
  have hspelling : Utf8.encode spelling = Base64.encode (Utf8.encode c.text) := by decide +kernel
  have hproves : Proves some c spelling := ⟨by decide, Utf8.encode c.text, hspelling, rfl⟩
  obtain ⟨hunique, houtcome⟩ := verify_accepts_one_body some c hinj
  have hnot : ¬ Proves some c unpadded := by
    intro h
    have heq := hunique _ _ hproves h
    exact absurd heq (by decide)
  have haccepted := houtcome Unit (answeringEnvironment spelling) sampleSettings.identity
    pendingWorker { world := () } "1.0.0" spelling (answeringEnvironment_opens _ _) rfl rfl rfl rfl
  have hrefused := houtcome Unit (answeringEnvironment unpadded) sampleSettings.identity
    pendingWorker { world := () } "1.0.0" unpadded (answeringEnvironment_opens _ _) rfl rfl rfl rfl
  exact ⟨hproves, haccepted.1.mpr hproves, hnot, hrefused.2.2.2 (by decide) hnot⟩

end NodeAdmission.Admission
