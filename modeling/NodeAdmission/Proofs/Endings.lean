import NodeAdmission.Proofs.Deeds
import NodeAdmission.Proofs.Trimming

/-!
# How commands end

Every command asks for one operation of the crypto service, if it has what it needs for it, and
makes one call for it. Then it shows the result or saves it.

* `AsksFor` — the operation that a command asks for. To delete all keys has to be confirmed, and
  what is imported has to be the line of a key; without that a command asks for nothing.
* `Prepares` — what is done before: the file with a key is loaded.
* `Carries` — the four ways to end: nothing is asked for, the operation fails, its result is shown,
  or the key that came of it is saved.
* `execute_carries` — every command ends in one of these ways. There is one lemma for each way to
  make a report (`showing_carries`, `doing_carries`) and for each command with a way of its own.
* `Invocation.carries` — the same for a run whose arguments are accepted; a run whose arguments are
  not accepted does nothing (`run_stops`).

What follows from it about requests, exit statuses and output is proved by cases on `Carries`, so
that no command has to be opened again.
-/

namespace NodeAdmission.Admin

open Crypto (Client)
open Crypto.Client (Operation Result)
open Http (Call Proxies RemoteError)

variable {ω α : Type} {p : Proxies} {call : Call α} {op op' : Operation}

/-! ### What commands ask for

Whether a command asks for an operation is told by the deeds before it, since the text of a key may
have been loaded. Deeds that load nothing make no difference to that. -/

/-- The line begins like a public key. -/
def IsKey (line : String) : Prop := "ssh-rsa ".toList <+: line.toList

/-- A text is the line of a key if it begins like one after the blanks around it are taken away. -/
theorem readKeyLine_eq_ok_iff {text line : String} :
    readKeyLine text = .ok line ↔ line = Text.trim text ∧ IsKey line := by
  rw [readKeyLine]
  split
  · next hkey =>
    have hkey : IsKey (Text.trim text) := by
      rw [IsKey, Text.toList_trim]
      exact List.isPrefixOf_iff_prefix.mp hkey
    rw [Except.ok.injEq]
    exact ⟨fun h => h ▸ ⟨rfl, hkey⟩, fun h => h.1.symm⟩
  · next hkey =>
    refine ⟨nofun, ?_⟩
    rintro ⟨rfl, h⟩
    rw [IsKey, Text.toList_trim] at h
    exact absurd (List.isPrefixOf_iff_prefix.mpr h) hkey

/-- The text from which a key is imported: it is given, or it was loaded. -/
def KeySource.Gives (source : KeySource) (deeds : List Deed) (text : String) : Prop :=
  match source with
  | .line given => text = given
  | .file path => .loaded path (.ok (Utf8.encode text)) ∈ deeds

/-- The operation that a command asks for after some deeds. All keys are deleted only if that is
confirmed, and a key is imported only if the text is the line of one. -/
inductive AsksFor (name : String) (deeds : List Deed) : Command → Operation → Prop where
  | register : AsksFor name deeds .register (.register name)
  | unregister : AsksFor name deeds .unregister (.remove name)
  | keys : AsksFor name deeds .keys (.listKeys name)
  | purgeKeys : AsksFor name deeds (.purgeKeys true) (.deleteAllKeys name)
  | createEncryptionKey (key : String) :
      AsksFor name deeds (.createEncryptionKey key) (.createEncryptionKey name key)
  | createSigningKey (key : String) :
      AsksFor name deeds (.createSigningKey key) (.createSigningKey name key)
  | exportKey (key : String) (out : Option String) :
      AsksFor name deeds (.exportKey key out) (.exportKey name key)
  | importKey (key : String) {source : KeySource} {text : String} : source.Gives deeds text →
      IsKey (Text.trim text) →
      AsksFor name deeds (.importKey key source) (.importKey name key (Text.trim text))
  | deleteKey (key : String) : AsksFor name deeds (.deleteKey key) (.deleteKey name key)
  | sign (key message : String) : AsksFor name deeds (.sign key message) (.sign name key message)
  | verify (key message signature : String) :
      AsksFor name deeds (.verify key message signature) (.verify name key message signature)
  | encrypt (key message : String) :
    AsksFor name deeds (.encrypt key message) (.encrypt name key message)
  | decrypt (key ciphertext : String) :
      AsksFor name deeds (.decrypt key ciphertext) (.decrypt name key ciphertext)

def Command.source? : Command → Option String
  | .importKey _ (.file path) => some path
  | _ => none

/-- What a command does before it asks for anything: it loads the file with the
key, if there is one. -/
inductive Prepares : Command → List Deed → Prop where
  | nothing {command : Command} : command.source? = none → Prepares command []
  | loaded (key path : String) (result : Except OsError Bytes) :
      Prepares (.importKey key (.file path)) [.loaded path result]

section

variable {name : String} {command : Command} {source : KeySource} {text text' : String}
  {before deeds deeds' : List Deed}

/-- What is done later does not matter for the text, as long as no file is loaded. -/
theorem KeySource.gives_append (h : ∀ path result, .loaded path result ∉ deeds') :
    source.Gives (deeds ++ deeds') text ↔ source.Gives deeds text := by
  cases source with
  | line given => rfl
  | file path => simp [Gives, h]

theorem AsksFor.of_gives (h : AsksFor name deeds command op)
    (hgives : ∀ (source : KeySource) text, source.Gives deeds text → source.Gives deeds' text) :
    AsksFor name deeds' command op := by
  cases h with
  | importKey key htext hkey => exact .importKey key (hgives _ _ htext) hkey
  | _ => constructor

theorem asksFor_append (h : ∀ path result, .loaded path result ∉ deeds') :
    AsksFor name (deeds ++ deeds') command op ↔ AsksFor name deeds command op :=
  ⟨fun hasks => hasks.of_gives fun _ _ => (KeySource.gives_append h).mp,
    fun hasks => hasks.of_gives fun _ _ => (KeySource.gives_append h).mpr⟩

/-- One file is loaded at most, so there is one text at most. -/
theorem Prepares.gives_unique {key : String} (h : Prepares (.importKey key source) before)
    (htext : source.Gives before text) (htext' : source.Gives before text') : text = text' := by
  cases source with
  | line given => exact Eq.trans htext (Eq.symm htext')
  | file path =>
    cases h with
    | nothing hnone => cases hnone
    | loaded _ _ result =>
      -- Of a file that is loaded once the content is known, and bytes are decoded in one way.
      simp only [KeySource.Gives, List.mem_singleton, Deed.loaded.injEq, true_and] at htext htext'
      exact Utf8.encode_injective (Except.ok.inj (htext.trans htext'.symm))

/-- A command asks for one operation at most. -/
theorem Prepares.asksFor_unique (h : Prepares command before)
    (hasks : AsksFor name before command op)
    (hasks' : AsksFor name before command op') : op = op' := by
  cases hasks with
  | importKey key htext hkey =>
    cases hasks' with
    | importKey _ htext' hkey' => rw [h.gives_unique htext htext']
  | _ =>
    cases hasks'
    rfl

end

/-! ### How commands end -/

def keyFile (text : String) : Bytes := Utf8.encode (line (Text.trimEnd text))

/-- All that a command does with the result of its operation is to show it. -/
def Command.isPlain : Command → Bool
  | .exportKey _ _ => false
  | .verify _ _ _ => false
  | _ => true

/-- The text shows the result. Of a key, and of a signature that is not valid, it is known how they
are shown; a key that is to be saved is not shown. -/
structure Shows (desk : Desk (Timed ω)) (o : Options) (result : Result) (text : String) : Prop where
  unsaved : ∀ key path, o.command ≠ .exportKey key (some path)
  key : ∀ key s, o.command = .exportKey key none → result = .text s →
    text = valueLine o "publicKey" (Text.trimEnd s)
  rejection : result = .valid false → text = verdictLine o desk.coloured false ∧
    ∃ key message signature, o.command = .verify key message signature

/-- What a command does and what it reports: it has not got what it needs, the operation fails, its
result is shown, or the key that came of it is saved. -/
inductive Carries (p : Proxies) (desk : Desk (Timed ω)) (o : Options) :
    List Deed → Report → Prop where
  | withheld {before : List Deed} {failure : Failure} : Prepares o.command before →
      (∀ op, ¬ AsksFor o.name before o.command op) → Carries p desk o before (failure.report "")
  | failed {before : List Deed} {op : Operation} {es : List Exchanged} {e : RemoteError}
    {failure : Failure} :
      Prepares o.command before → AsksFor o.name before o.command op →
      Performs p (client o) op es (.error e) →
      Carries p desk o (before ++ sends es) (failure.report (noticeOf desk o))
  | shown {before : List Deed} {op : Operation} {es : List Exchanged} {result : Result}
    {text : String} :
      Prepares o.command before → AsksFor o.name before o.command op →
      Performs p (client o) op es (.ok result) → Shows desk o result text →
      Carries p desk o (before ++ sends es) ⟨text, "", if result = .valid false then 1 else 0⟩
  | saved {key path text : String} {es : List Exchanged} {saved : Except OsError Unit}
    {r : Report} :
      o.command = .exportKey key (some path) →
      Performs p (client o) (.exportKey o.name key) es (.ok (.text text)) →
      (saved = .ok () → r = { stdout := doneLine o desk.coloured ("Wrote " ++ path) }) →
      (∀ e, saved = .error e → ∃ failure : Failure, r = failure.report "") →
      Carries p desk o (sends es ++ [.saved path (keyFile text) saved]) r

variable {desk : Desk (Timed ω)} {o : Options} {name : String}

/-- A call that shows its result fails with a failure or shows what the call came to. -/
theorem showing_does {before attempted : String} {display : α → String} :
    Does (showing (desk.observed p) before attempted call display) fun deeds r =>
      ∃ es outcome, deeds = sends es ∧ Yields p call es outcome ∧
        (∀ e, outcome = .error e → ∃ failure : Failure, r = failure.report before) ∧
        ∀ a, outcome = .ok a → r = { stdout := before ++ display a } := by
  refine .bind (perform_does desk p call) ?_
  rintro deeds outcome ⟨es, rfl, hyields⟩
  cases outcome with
  | error e =>
    refine .pure ⟨es, _, List.append_nil _, hyields, fun _ _ => ⟨_, rfl⟩, nofun⟩
  | ok a =>
    refine .pure ⟨es, _, List.append_nil _, hyields, nofun, ?_⟩
    rintro _ ⟨⟩
    rfl

/-- Only for a verification is the outcome of the call not the outcome of the operation. -/
theorem AsksFor.settle_eq {command : Command} {deeds : List Deed}
    (h : AsksFor name deeds command op)
    (hplain : command.isPlain) (outcome : Except RemoteError Result) :
    Client.settle op outcome = outcome := by
  cases h with
  | verify _ _ _ => cases hplain
  | _ => rfl

theorem Shows.of_isPlain {result : Result} {text : String} (hplain : o.command.isPlain)
    (hvalid : result ≠ .valid false) : Shows desk o result text := by
  refine ⟨?_, ?_, fun h => absurd h hvalid⟩
  · intro key path hcommand
    rw [hcommand] at hplain
    cases hplain
  · intro key s hcommand
    rw [hcommand] at hplain
    cases hplain

/-- A call whose result is shown, after what has been done before. -/
theorem showing_carries {command : Command} {before : List Deed} {notice attempted : String}
    {call : Call α}
    {display : α → String} (f : α → Result) (op : Operation) (hcommand : o.command = command)
    (hnotice : noticeOf desk o = notice) (hprepares : Prepares command before)
    (hasks : AsksFor o.name before command op) (hcall : (client o).callOf op = call.map f)
    (hplain : command.isPlain) (hvalid : ∀ a, f a ≠ .valid false) :
    Does (showing (desk.observed p) notice attempted call display) fun deeds r =>
      Carries p desk o (before ++ deeds) r := by
  subst hcommand hnotice
  refine showing_does.mono ?_
  rintro deeds r ⟨es, outcome, rfl, hyields, hfailure, hshown⟩
  have hperforms : Performs p (client o) op es (outcome.map f) :=
    ⟨_, hcall ▸ hyields.map f, hasks.settle_eq hplain _⟩
  cases outcome with
  | error e =>
    obtain ⟨failure, rfl⟩ := hfailure e rfl
    exact .failed hprepares hasks hperforms
  | ok a =>
    rw [hshown a rfl]
    -- No result is a rejection here, so the exit status is 0.
    have hcarries : Carries p desk o (before ++ sends es)
        ⟨noticeOf desk o ++ display a, "", if f a = .valid false then 1 else 0⟩ :=
      .shown hprepares hasks hperforms (.of_isPlain hplain (hvalid a))
    rwa [if_neg (hvalid a)] at hcarries

/-- A call that succeeds without a result. -/
theorem doing_carries {command : Command} {before : List Deed} {notice attempted message : String}
    {call : Call Unit} (op : Operation) (hcommand : o.command = command)
    (hnotice : noticeOf desk o = notice) (hprepares : Prepares command before)
    (hasks : AsksFor o.name before command op)
    (hcall : (client o).callOf op = call.map fun _ => .done)
    (hplain : command.isPlain) :
    Does (doing (desk.observed p) o notice attempted message call) fun deeds r =>
      Carries p desk o (before ++ deeds) r :=
  showing_carries (fun _ => .done) op hcommand hnotice hprepares hasks hcall hplain (by simp)

theorem noticeOf_eq_purgeNotice {confirmed : Bool} (hcommand : o.command = .purgeKeys confirmed) :
    noticeOf desk o = purgeNotice desk o := by rw [noticeOf, hcommand]

theorem noticeOf_eq_empty (hcommand : ∀ confirmed, o.command ≠ .purgeKeys confirmed) :
    noticeOf desk o = "" := by
  unfold noticeOf
  split
  · next confirmed h => exact absurd h (hcommand confirmed)
  · rfl

/-- Without a confirmation nothing is asked for. -/
theorem purgeKeys_carries {confirmed : Bool} (hcommand : o.command = .purgeKeys confirmed) :
    Does (purgeKeys (desk.observed p) o confirmed) (Carries p desk o) := by
  cases confirmed with
  | false =>
    refine .pure (.withheld (hcommand ▸ .nothing rfl) fun op hasks => ?_)
    rw [hcommand] at hasks
    -- No constructor is about `purge-keys` without a confirmation.
    cases hasks
  | true =>
    have hnotice : noticeOf desk o = purgeNotice desk o := noticeOf_eq_purgeNotice hcommand
    rw [purgeNotice] at hnotice
    simp only [purgeKeys, if_true]
    exact doing_carries (.deleteAllKeys o.name) hcommand hnotice (.nothing rfl) .purgeKeys rfl rfl

/-- An export shows the key or saves it; a key that cannot be saved is not shown instead. -/
theorem exportKey_carries {key : String} {out : Option String}
    (hcommand : o.command = .exportKey key out) :
    Does (exportKey (desk.observed p) o key out) (Carries p desk o) := by
  have hprepares : Prepares o.command [] := by rw [hcommand]; exact .nothing rfl
  have hasks : AsksFor o.name [] o.command (.exportKey o.name key) := by rw [hcommand]; constructor
  have hnotice : noticeOf desk o = "" := by rw [noticeOf, hcommand]
  refine .bind (perform_does desk p _) ?_
  rintro deeds outcome ⟨es, rfl, hyields⟩
  have hperforms : Performs p (client o) (.exportKey o.name key) es (outcome.map .text) :=
    ⟨_, hyields.map _, rfl⟩
  cases outcome with
  | error e =>
    refine .pure ?_
    rw [List.append_nil, ← hnotice]
    exact .failed hprepares hasks hperforms
  | ok text =>
    -- The key has come; it is printed, or it is saved where it is told to.
    cases out with
    | none =>
      refine .pure ?_
      rw [List.append_nil]
      refine .shown hprepares hasks hperforms ⟨by simp [hcommand], ?_, by simp⟩
      rintro _ _ - ⟨⟩
      rfl
    | some path =>
      refine .bind (recording_does _ _) ?_
      rintro later saved rfl
      cases saved with
      | error e =>
        refine .pure ?_
        rw [List.append_nil]
        exact .saved hcommand hperforms (by simp) fun _ _ => ⟨_, rfl⟩
      | ok u =>
        refine .pure ?_
        rw [List.append_nil]
        exact .saved hcommand hperforms (fun _ => rfl) (by simp)

/-- A text is read exactly if it is given, or loaded from a file that is a text. -/
theorem readSource_does (desk : Desk (Timed ω)) (p : Proxies) (key : String) (source : KeySource) :
    Does (readSource (desk.observed p) source) fun deeds outcome =>
      Prepares (.importKey key source) deeds ∧
        ∀ text, outcome = .ok text ↔ source.Gives deeds text := by
  cases source with
  | line given =>
    refine .pure ⟨.nothing rfl, fun text => ?_⟩
    rw [Except.ok.injEq, KeySource.Gives, eq_comm]
  | file path =>
    refine .bind (recording_does _ _) ?_
    rintro deeds loaded rfl
    -- The text of the file is known by what was loaded.
    have hgives : ∀ text, (KeySource.file path).Gives [.loaded path loaded] text ↔
        loaded = .ok (Utf8.encode text) := by
      intro text
      simp only [KeySource.Gives, List.mem_singleton, Deed.loaded.injEq, true_and]
      exact eq_comm
    cases loaded with
    | error e =>
      refine .pure ⟨.loaded key path _, fun text => ?_⟩
      rw [List.append_nil, hgives]
      simp
    | ok bytes =>
      cases hdecode : Utf8.decode bytes with
      | error e =>
        simp only [hdecode]
        refine .pure ⟨.loaded key path _, fun text => ?_⟩
        rw [List.append_nil, hgives, Except.ok.injEq, eq_comm (a := bytes), ← Utf8.decode_eq_ok_iff,
          hdecode]
        simp
      | ok content =>
        simp only [hdecode]
        refine .pure ⟨.loaded key path _, fun text => ?_⟩
        -- Bytes that are a text are the encoding of just this text.
        obtain rfl := Utf8.decode_eq_ok_iff.mp hdecode
        rw [List.append_nil, hgives, Except.ok.injEq, Except.ok.injEq]
        exact ⟨congrArg _, fun h => Utf8.encode_injective h⟩

/-- An import asks for something exactly if it has read the line of a key. -/
theorem importKey_carries {key : String} {source : KeySource}
    (hcommand : o.command = .importKey key source) :
    Does (importKey (desk.observed p) o key source) (Carries p desk o) := by
  have hnotice : noticeOf desk o = "" := by rw [noticeOf, hcommand]
  refine .bind (readSource_does desk p key source) ?_
  rintro before outcome ⟨hprepares, hgives⟩
  cases hline : outcome.bind readKeyLine with
  | error failure =>
    -- With the text of a key there would have been a line.
    refine .pure ?_
    rw [List.append_nil]
    refine .withheld (hcommand ▸ hprepares) fun op hasks => ?_
    rw [hcommand] at hasks
    cases hasks with
    | importKey _ htext hkey =>
      have hread : readKeyLine _ = .ok _ := readKeyLine_eq_ok_iff.mpr ⟨rfl, hkey⟩
      rw [(hgives _).mpr htext] at hline
      cases hread.symm.trans hline
  | ok keyLine =>
    obtain ⟨text, htext, hread⟩ := bind_eq_ok_iff.mp hline
    obtain ⟨rfl, hkey⟩ := readKeyLine_eq_ok_iff.mp hread
    exact doing_carries (.importKey o.name key (Text.trim text)) hcommand hnotice hprepares
      (.importKey key ((hgives text).mp htext) hkey) rfl rfl

theorem verifySignature_carries {key message signature : String}
    (hcommand : o.command = .verify key message signature) :
    Does (verifySignature (desk.observed p) o key message signature) (Carries p desk o) := by
  have hprepares : Prepares o.command [] := by rw [hcommand]; exact .nothing rfl
  have hasks : AsksFor o.name [] o.command (.verify o.name key message signature) := by
    rw [hcommand]; constructor
  have hnotice : noticeOf desk o = "" := by rw [noticeOf, hcommand]
  refine .bind (perform_does desk p _) ?_
  rintro deeds outcome ⟨es, rfl, hyields⟩
  -- The call fails for a signature that is not valid, but the operation succeeds.
  have hperforms : Performs p (client o) (.verify o.name key message signature) es
      ((Client.judge outcome).map .valid) :=
    ⟨_, hyields.map _, Client.settle_verify ..⟩
  cases hjudged : Client.judge outcome with
  | error e =>
    rw [hjudged] at hperforms
    refine .pure ?_
    rw [List.append_nil, ← hnotice]
    exact .failed hprepares hasks hperforms
  | ok valid =>
    rw [hjudged] at hperforms
    refine .pure ?_
    rw [List.append_nil]
    cases valid with
    | false =>
      exact .shown hprepares hasks hperforms
        ⟨by simp [hcommand], by simp [hcommand], fun _ => ⟨rfl, _, _, _, hcommand⟩⟩
    | true =>
      exact .shown hprepares hasks hperforms ⟨by simp [hcommand], by simp [hcommand], by simp⟩

/-- Every command ends in one of these ways, whatever the service and the file system do. -/
theorem execute_carries (desk : Desk (Timed ω)) (p : Proxies) (o : Options) :
    Does (execute (desk.observed p) o) (Carries p desk o) := by
  cases hcommand : o.command <;> simp only [execute, hcommand]
  case purgeKeys confirmed => exact purgeKeys_carries hcommand
  case exportKey key out => exact exportKey_carries hcommand
  case importKey key source => exact importKey_carries hcommand
  case verify key message signature => exact verifySignature_carries hcommand
  -- The other commands have no notice and load nothing.
  all_goals have hnotice : noticeOf desk o = "" := by rw [noticeOf, hcommand]
  case register =>
    exact doing_carries (.register o.name) hcommand hnotice (.nothing rfl) .register rfl rfl
  case unregister =>
    exact doing_carries (.remove o.name) hcommand hnotice (.nothing rfl) .unregister rfl rfl
  case createEncryptionKey key =>
    exact doing_carries (.createEncryptionKey o.name key) hcommand hnotice (.nothing rfl)
      (.createEncryptionKey key) rfl rfl
  case createSigningKey key =>
    exact doing_carries (.createSigningKey o.name key) hcommand hnotice (.nothing rfl)
      (.createSigningKey key) rfl rfl
  case deleteKey key =>
    exact doing_carries (.deleteKey o.name key) hcommand hnotice (.nothing rfl)
      (.deleteKey key) rfl rfl
  case keys =>
    exact showing_carries .keys (.listKeys o.name) hcommand hnotice (.nothing rfl) .keys rfl rfl
      (by simp)
  case sign key message =>
    exact showing_carries .text (.sign o.name key message) hcommand hnotice (.nothing rfl)
      (.sign key message) rfl rfl (by simp)
  case encrypt key message =>
    exact showing_carries .text (.encrypt o.name key message) hcommand hnotice (.nothing rfl)
      (.encrypt key message) rfl rfl (by simp)
  case decrypt key ciphertext =>
    exact showing_carries .bytes (.decrypt o.name key ciphertext) hcommand hnotice (.nothing rfl)
      (.decrypt key ciphertext) rfl rfl (by simp)

/-- A run whose arguments are accepted. -/
structure Invocation (ω : Type) where
  desk : Desk (Timed ω)
  lookup : String → Option String
  args : List String
  now : Instant
  world : ω
  options : Options
  accepted : Options.read lookup args = .ok options

namespace Invocation

def outcome (i : Invocation ω) : Reply (ω × List Deed) Report :=
  run i.desk.recorded i.lookup i.args i.now (i.world, [])

def deeds (i : Invocation ω) : List Deed := i.outcome.world.2

def report (i : Invocation ω) : Report := i.outcome.value

def proxies (i : Invocation ω) : Proxies := .ofVariables i.lookup

theorem outcome_eq (i : Invocation ω) :
    i.outcome = execute (i.desk.observed i.proxies) i.options i.now (i.world, []) := by
  rw [outcome, run, i.accepted]
  rfl

/-- Every run whose arguments are accepted ends in one of the ways. -/
theorem carries (i : Invocation ω) : Carries i.proxies i.desk i.options i.deeds i.report := by
  obtain ⟨entries, hdeeds, hcarries⟩ :=
    execute_carries i.desk i.proxies i.options i.now (i.world, [])
  rw [← outcome_eq] at hdeeds hcarries
  have hdeeds : i.deeds = entries := hdeeds
  rwa [hdeeds]

end Invocation

/-- A run whose arguments are not accepted does nothing. -/
theorem run_stops (desk : Desk (Timed ω)) {lookup : String → Option String} {args : List String}
    {stop : Stop} (hread : Options.read lookup args = .error stop) :
    Does (run desk.recorded lookup args) fun deeds r => deeds = [] ∧ r = stop.report lookup := by
  rw [run, hread]
  exact .pure ⟨rfl, rfl⟩

end NodeAdmission.Admin
