import NodeAdmission.Admin.Run
import NodeAdmission.Proofs.RoundTrip
import NodeAdmission.Timed

/-!
# Output for machines

With `--json` a command that comes to a result writes it as one JSON document, from which the text
or the keys that the service has sent are read back. One command does more: before it deletes all
keys it says so in words, also with `--json`, and then its output is no document.

* `doneLine_spells`, `valueLine_spells`, `verdictLine_spells`, `keyLines_spells` — each kind of line
  spells a document, and what this document tells.
* `Writes` — a report whose output is a notice and then a document. There is one lemma for each way
  to make a report (`showing_writes`, `doing_writes`) and for each command with a way of its own.
* `Tells` — what the document tells about the result, for every command.
* `json_output` — the output of every command that comes to a result, and what reads it.
* `purge_output_not_json` — the output that cannot be read: `purge-keys` prints its notice
  without regard to `--json`.

A command comes to a result if it ends with status 0, or if the service rejects the
signature that is to be verified (`Rejects`): that the signature is not valid is a result
too, although the exit status is 1.
-/

namespace NodeAdmission.Admin

open Crypto (Client KeyInfo)
open Http (Call Exchange)
open Json (Parsed Spells beginnings textOf)

variable {desk : Desk (Timed ω)} {o : Options} {now : Instant} {w : ω}

/-! ### Lines for machines -/

/-- The line feed at the end is white space. -/
theorem spells_line {s : String} {v : Parsed} (h : Spells s.toList v) :
    Spells (line s).toList v := by
  rw [line, String.toList_append]
  exact .blankAfter (.inr (.inr (.inl rfl))) h

theorem spells_compact_line (j : Json) : Spells (line j.compact).toList (Json.parsed j) := by
  apply spells_line
  rw [Json.compact, String.toList_ofList]
  exact Json.spells_compactChars j

theorem spells_pretty_line (j : Json) : Spells (line j.pretty).toList (Json.parsed j) := by
  apply spells_line
  rw [Json.pretty, String.toList_ofList]
  exact Json.spells_prettyChars 0 j

/-- The value is an object with one member, which has the label. -/
def Labels (label : String) (content v : Parsed) : Prop :=
  ∃ key, textOf key = .ok label ∧ v = .object [(key, content)] .closed

/-- The value is an object with one member, which has the label and is the text. -/
def TellsText (label text : String) (v : Parsed) : Prop :=
  ∃ content, textOf content = .ok text ∧ Labels label (.string content) v

theorem labels_parsed (label : String) (j : Json) :
    Labels label (Json.parsed j) (Json.parsed (.obj [(label, j)])) :=
  ⟨Json.pieces label, Json.textOf_pieces label, rfl⟩

theorem tellsText_parsed (label text : String) :
    TellsText label text (Json.parsed (.obj [(label, .str text)])) :=
  ⟨Json.pieces text, Json.textOf_pieces text, labels_parsed label (.str text)⟩

/-- That all went well is told under `ok`. -/
theorem doneLine_spells (hjson : o.json = true) (coloured : Bool) (message : String) :
    ∃ v, Spells (doneLine o coloured message).toList v ∧ Labels "ok" (.bool true) v := by
  rw [doneLine, if_pos hjson]
  exact ⟨_, spells_compact_line _, labels_parsed "ok" (.bool true)⟩

/-- A text is told under its label. -/
theorem valueLine_spells (hjson : o.json = true) (label value : String) :
    ∃ v, Spells (valueLine o label value).toList v ∧ TellsText label value v := by
  rw [valueLine, if_pos hjson]
  exact ⟨_, spells_compact_line _, tellsText_parsed label value⟩

theorem verdictLine_spells (hjson : o.json = true) (coloured valid : Bool) :
    ∃ v, Spells (verdictLine o coloured valid).toList v ∧ Labels "valid" (.bool valid) v := by
  rw [verdictLine, if_pos hjson]
  exact ⟨_, spells_compact_line _, labels_parsed "valid" (.bool valid)⟩

/-- The keys are written as the service sends them, in the same order. -/
theorem keyLines_spells (hjson : o.json = true) (coloured : Bool) (ks : List KeyInfo) :
    ∃ v, Spells (keyLines o coloured ks).toList v ∧ KeyInfo.listDecoder v = .ok ks := by
  rw [keyLines, if_pos hjson]
  exact ⟨_, spells_pretty_line _, KeyInfo.listDecoder_parsed ks⟩

/-! ### What is written at a result

A failure never ends with status 0 (`Failure.exit_report`), so for most commands one case is left,
in which the call succeeded. The check of a signature has a second one. -/

/-- After a notice the output is one document, of which more is known. -/
def Writes (notice : String) (tells : Parsed → Prop) (r : Report) : Prop :=
  ∃ document v, r.stdout = notice ++ document ∧ Spells document.toList v ∧ tells v

theorem Failure.exit_report (f : Failure) (stdout : String) : (f.report stdout).exit ≠ 0 := by
  show (1 : UInt32) ≠ 0
  decide

section

variable {notice attempted message : String} {tells : Parsed → Prop}

theorem writes_of_spells {text : String} {code : UInt32}
    (h : ∃ v, Spells text.toList v ∧ tells v) : Writes notice tells ⟨notice ++ text, "", code⟩ := by
  obtain ⟨v, hspells, htells⟩ := h
  exact ⟨text, v, rfl, hspells, htells⟩

/-- A call that shows its result: if the lines that it shows spell a document, so does the
output after the notice. -/
theorem showing_writes {call : Call α} {display : α → String}
    (hexit : (showing desk notice attempted call display now w).value.exit = 0)
    (hdisplay : ∀ a, (call.perform desk.exchange now w).value = .ok a →
      ∃ v, Spells (display a).toList v ∧ tells v) :
    Writes notice tells (showing desk notice attempted call display now w).value := by
  rw [showing, Timed.bind_apply] at hexit ⊢
  cases hresult : (call.perform desk.exchange now w).value with
  | error e =>
    simp only [hresult] at hexit
    exact absurd hexit (Failure.exit_report _ _)
  | ok a => exact writes_of_spells (hdisplay a hresult)

theorem showing_text_writes (desk : Desk (Timed ω)) (o : Options) {call : Call String}
    {label : String}
    (hjson : o.json = true)
    (hexit : (showing desk notice attempted call (valueLine o label) now w).value.exit = 0) :
    Writes notice (fun v => ∃ text, (call.perform desk.exchange now w).value = .ok text ∧
        TellsText label text v)
      (showing desk notice attempted call (valueLine o label) now w).value := by
  refine showing_writes hexit fun text htext => ?_
  obtain ⟨v, hspells, htells⟩ := valueLine_spells hjson label text
  exact ⟨v, hspells, text, htext, htells⟩

theorem doing_writes (desk : Desk (Timed ω)) (o : Options) {call : Call Unit}
    (hjson : o.json = true)
    (hexit : (doing desk o notice attempted message call now w).value.exit = 0) :
    Writes notice (Labels "ok" (.bool true))
      (doing desk o notice attempted message call now w).value :=
  showing_writes hexit fun _ _ => doneLine_spells hjson _ _

end

/-- The line that a command writes before it deletes all keys. -/
def purgeNotice (desk : Desk (Timed ω)) (o : Options) : String :=
  line (Style.notice.paint desk.coloured ("Deleting all keys of " ++ o.name ++ "..."))

theorem purgeKeys_writes (desk : Desk (Timed ω)) (o : Options) {confirmed : Bool}
    (hjson : o.json = true)
    (hexit : (purgeKeys desk o confirmed now w).value.exit = 0) :
    Writes (purgeNotice desk o) (Labels "ok" (.bool true))
      (purgeKeys desk o confirmed now w).value := by
  cases confirmed with
  | false =>
    rw [purgeKeys, if_neg Bool.false_ne_true] at hexit
    exact absurd hexit (Failure.exit_report _ _)
  | true =>
    rw [purgeNotice]
    simp only [purgeKeys, if_true] at hexit ⊢
    exact doing_writes desk o hjson hexit

theorem importKey_writes (desk : Desk (Timed ω)) (o : Options) {key : String} {source : KeySource}
    (hjson : o.json = true) (hexit : (importKey desk o key source now w).value.exit = 0) :
    Writes "" (Labels "ok" (.bool true)) (importKey desk o key source now w).value := by
  rw [importKey, Timed.bind_apply] at hexit ⊢
  cases hsource : (readSource desk source now w).value.bind readKeyLine with
  | error failure =>
    simp only [hsource] at hexit
    exact absurd hexit (Failure.exit_report _ _)
  | ok text =>
    simp only [hsource] at hexit ⊢
    exact doing_writes desk o hjson hexit

theorem exportKey_writes (desk : Desk (Timed ω)) (o : Options) {key : String}
    (hjson : o.json = true)
    (hexit : (exportKey desk o key none now w).value.exit = 0) :
    Writes "" (fun v => ∃ text,
        (((client o).exportKey o.name key).perform desk.exchange now w).value = .ok text ∧
          TellsText "publicKey" (Text.trimEnd text) v)
      (exportKey desk o key none now w).value := by
  rw [exportKey, Timed.bind_apply] at hexit ⊢
  cases hresult : (((client o).exportKey o.name key).perform desk.exchange now w).value with
  | error e =>
    simp only [hresult] at hexit
    exact absurd hexit (Failure.exit_report _ _)
  | ok text =>
    obtain ⟨v, hspells, htells⟩ := valueLine_spells hjson "publicKey" (Text.trimEnd text)
    exact writes_of_spells ⟨v, hspells, text, rfl, htells⟩

/-- Of a key that is saved to a file, the output tells only that it was. -/
theorem exportKey_to_file_writes (desk : Desk (Timed ω)) (o : Options) {key path : String}
    (hjson : o.json = true)
    (hexit : (exportKey desk o key (some path) now w).value.exit = 0) :
    Writes "" (Labels "ok" (.bool true)) (exportKey desk o key (some path) now w).value := by
  rw [exportKey, Timed.bind_apply] at hexit ⊢
  cases hresult : (((client o).exportKey o.name key).perform desk.exchange now w).value with
  | error e =>
    simp only [hresult] at hexit
    exact absurd hexit (Failure.exit_report _ _)
  | ok text =>
    simp only [hresult, Timed.bind_apply] at hexit ⊢
    -- Whether the key could be saved is all that matters here.
    generalize (desk.save path (Utf8.encode (line (Text.trimEnd text))) _ _).value =
      saved at hexit ⊢
    cases saved with
    | error e => exact absurd hexit (Failure.exit_report _ _)
    | ok _ => exact writes_of_spells (doneLine_spells hjson _ _)

def Rejects (exchange : Exchange (Timed ω)) (o : Options) (now : Instant) (w : ω) : Prop :=
  ∃ key message signature, o.command = .verify key message signature ∧
    Client.judge (((client o).verify o.name key message signature).perform exchange now w).value =
      .ok false

/-- Both verdicts are told, the one that ends with status 0 and the one that does not. -/
theorem verifySignature_writes (desk : Desk (Timed ω)) (o : Options)
    {key message signature : String} (hjson : o.json = true)
    (hcommand : o.command = .verify key message signature)
    (hresult : (verifySignature desk o key message signature now w).value.exit = 0 ∨
      Rejects desk.exchange o now w) :
    Writes "" (fun v => ∃ valid,
        Client.judge
            (((client o).verify o.name key message signature).perform desk.exchange now w).value =
            .ok valid ∧ Labels "valid" (.bool valid) v)
      (verifySignature desk o key message signature now w).value := by
  rw [verifySignature, Timed.bind_apply] at hresult ⊢
  cases hjudged : Client.judge
      (((client o).verify o.name key message signature).perform desk.exchange now w).value with
  | error e =>
    simp only [hjudged] at hresult
    -- An error that is no verdict ends with another status than 0, and it is no rejection.
    rcases hresult with hexit | ⟨key', message', signature', hcommand', hrejected⟩
    · exact absurd hexit (Failure.exit_report _ _)
    · obtain ⟨rfl, rfl, rfl⟩ := Command.verify.inj (hcommand.symm.trans hcommand')
      rw [hrejected] at hjudged
      cases hjudged
  | ok valid =>
    obtain ⟨v, hspells, htells⟩ := verdictLine_spells hjson desk.coloured valid
    exact writes_of_spells ⟨v, hspells, valid, rfl, htells⟩

/-! ### All commands -/

/-- What a document tells about the result of a command: the text or the keys that the service has
sent, its verdict on a signature, or that the command has been carried out. -/
def Tells (exchange : Exchange (Timed ω)) (o : Options) (now : Instant) (w : ω) (v : Parsed) :
    Prop :=
  let c := client o
  match o.command with
  | .keys => ∃ ks, ((c.listKeys o.name).perform exchange now w).value = .ok ks ∧
      KeyInfo.listDecoder v = .ok ks
  | .exportKey key none =>
    ∃ text, ((c.exportKey o.name key).perform exchange now w).value = .ok text ∧
      TellsText "publicKey" (Text.trimEnd text) v
  | .sign key message =>
    ∃ text, ((c.sign o.name key message).perform exchange now w).value = .ok text ∧
      TellsText "signature" text v
  | .verify key message signature => ∃ valid,
      Client.judge ((c.verify o.name key message signature).perform exchange now w).value =
        .ok valid ∧
        Labels "valid" (.bool valid) v
  | .encrypt key message => ∃ text,
      ((c.encrypt o.name key message).perform exchange now w).value = .ok text ∧
        TellsText "ciphertext" text v
  | .decrypt key ciphertext => ∃ bytes,
      ((c.decrypt o.name key ciphertext).perform exchange now w).value = .ok bytes ∧
        ∀ text, Utf8.encode text = bytes → TellsText "plaintext" text v
  | .register | .unregister | .purgeKeys _ | .createEncryptionKey _ | .createSigningKey _
  | .exportKey _ (some _) | .importKey _ _ | .deleteKey _ => Labels "ok" (.bool true) v

/-- What a command writes besides its result. -/
def noticeOf (desk : Desk (Timed ω)) (o : Options) : String :=
  match o.command with
  | .purgeKeys _ => purgeNotice desk o
  | _ => ""

/-- Every command writes one document after its notice, and only `purge-keys` has one. -/
theorem execute_writes (hjson : o.json = true)
    (hresult : (execute desk o now w).value.exit = 0 ∨ Rejects desk.exchange o now w) :
    Writes (noticeOf desk o) (Tells desk.exchange o now w) (execute desk o now w).value := by
  -- A command other than `verify` has no signature to reject.
  have hexit : (∀ key message signature, o.command ≠ .verify key message signature) →
      (execute desk o now w).value.exit = 0 := fun hother =>
    hresult.resolve_right fun ⟨key, message, signature, hcommand, _⟩ =>
      hother key message signature hcommand
  obtain ⟨cryptoUrl, name, timeout, json, command⟩ := o
  cases command <;> dsimp only [execute, noticeOf] at hresult hexit ⊢
  case verify key message signature => exact verifySignature_writes desk _ hjson rfl hresult
  case register => exact doing_writes desk _ hjson (hexit nofun)
  case unregister => exact doing_writes desk _ hjson (hexit nofun)
  case createEncryptionKey key => exact doing_writes desk _ hjson (hexit nofun)
  case createSigningKey key => exact doing_writes desk _ hjson (hexit nofun)
  case deleteKey key => exact doing_writes desk _ hjson (hexit nofun)
  case importKey key source => exact importKey_writes desk _ hjson (hexit nofun)
  case exportKey key out =>
    cases out with
    | none => exact exportKey_writes desk _ hjson (hexit nofun)
    | some path => exact exportKey_to_file_writes desk _ hjson (hexit nofun)
  case purgeKeys confirmed => exact purgeKeys_writes desk _ hjson (hexit nofun)
  case keys =>
    refine showing_writes (hexit nofun) fun ks hks => ?_
    obtain ⟨v, hspells, hread⟩ := keyLines_spells hjson desk.coloured ks
    exact ⟨v, hspells, ks, hks, hread⟩
  case sign key message => exact (showing_text_writes desk _ hjson (hexit nofun) :)
  case encrypt key message => exact (showing_text_writes desk _ hjson (hexit nofun) :)
  case decrypt key ciphertext =>
    -- A plaintext that is no text is shown with replacements, and nothing is said about it.
    refine showing_writes (hexit nofun) fun bytes hbytes => ?_
    obtain ⟨v, hspells, htells⟩ := valueLine_spells hjson "plaintext" (Utf8.decodeLossy bytes)
    refine ⟨v, hspells, bytes, hbytes, ?_⟩
    rintro text rfl
    rwa [Utf8.decodeLossy_encode] at htells

/-! ### The notice -/

/-- The notice begins with a character that no document begins with, coloured or not. -/
theorem exists_purgeNotice (desk : Desk (Timed ω)) (o : Options) :
    ∃ c rest, c ∉ beginnings ∧ (purgeNotice desk o).toList = c :: rest := by
  rw [purgeNotice, line, String.toList_append, Style.paint]
  split_ifs
  · exact ⟨'\x1b', _, by decide, by rw [Style.apply, String.toList_ofList]; rfl⟩
  · exact ⟨'D', _, by decide, by rw [String.toList_append, String.toList_append]; rfl⟩

/-- What follows the notice makes no document of it. -/
theorem not_spells_after_purgeNotice (desk : Desk (Timed ω)) (o : Options) (document : String)
    (v : Parsed) : ¬ Spells (purgeNotice desk o ++ document).toList v := by
  obtain ⟨c, rest, hc, heq⟩ := exists_purgeNotice desk o
  rw [String.toList_append, heq]
  exact Json.not_spells_of_not_mem hc

/-- With `--json` the result of a command is written as one document, which tells the result:
a text that the service has sent, its keys, its verdict or that all went well. The whole
output is this document, unless all keys are deleted: then a notice comes before it, and the
output is no document. -/
theorem json_output (desk : Desk (Timed ω)) (lookup : String → Option String) (args : List String)
    (o : Options) (now : Instant) (w : ω) (hread : Options.read lookup args = .ok o)
    (hjson : o.json = true) :
    let exchange := (Http.Proxies.ofVariables lookup).route desk.exchange
    let r := (run desk lookup args now w).value
    r.exit = 0 ∨ Rejects exchange o now w →
      ∃ notice document v, r.stdout = notice ++ document ∧ Spells document.toList v ∧
        Json.Document.read (Utf8.encode document) = ⟨v, false⟩ ∧ Tells exchange o now w v ∧
        ((∀ confirmed, o.command ≠ .purgeKeys confirmed) → notice = "") ∧
        (∀ confirmed, o.command = .purgeKeys confirmed →
          notice = purgeNotice desk o ∧ ∀ v, ¬ Spells r.stdout.toList v) := by
  intro exchange r hresult
  -- The arguments are accepted, so the command is carried out behind the proxies.
  have hrun : r = (execute { desk with exchange } o now w).value := by
    show (run desk lookup args now w).value = _
    rw [run, hread]
  obtain ⟨document, v, hstdout, hspells, htells⟩ := execute_writes hjson (hrun ▸ hresult)
  rw [← hrun] at hstdout
  refine ⟨_, document, v, hstdout, hspells, Json.read_of_spells hspells, htells, ?_, ?_⟩
  · intro hother
    unfold noticeOf
    split
    · next confirmed hcommand => exact absurd hcommand (hother confirmed)
    · rfl
  · intro confirmed hcommand
    have hnotice : noticeOf { desk with exchange } o = purgeNotice desk o := by
      rw [noticeOf, hcommand]
      rfl
    rw [hstdout, hnotice]
    exact ⟨rfl, not_spells_after_purgeNotice desk o document⟩

def answeringDesk (body : Bytes) : Desk (Timed Unit) where
  exchange _ := pure (.answered ⟨200, body, true⟩)
  load _ := pure (.error .noSuchFile)
  save _ _ := pure (.ok ())
  coloured := false

/-- A plaintext with a quotation mark, a backslash, a line feed and a control
character is read back. -/
theorem quoted_plaintext_read_back :
    let plaintext := "a\"b\\\n\x01"
    let desk := answeringDesk (Utf8.encode plaintext)
    let args := ["--json", "--crypto-url", "http://[::1]:8300", "decrypt", "my-key", "AAAA"]
    let r := (run desk (fun _ => none) args 0 ()).value
    (∃ o, Options.read (fun _ => none) args = .ok o ∧ o.json = true) ∧ r.exit = 0 ∧
      ∃ v, Spells r.stdout.toList v ∧ TellsText "plaintext" plaintext v := by
  intro plaintext desk args r
  let o : Options :=
    ⟨"http://[::1]:8300", defaultName, defaultTimeout, true, .decrypt "my-key" "AAAA"⟩
  have hread : Options.read (fun _ => none) args = .ok o := by decide +kernel
  have hexit : r.exit = 0 := by decide +kernel
  have hdecrypted : (((client o).decrypt o.name "my-key" "AAAA").perform
      ((Http.Proxies.ofVariables fun _ => none).route desk.exchange) 0 ()).value =
        .ok (Utf8.encode plaintext) := by decide +kernel
  -- There is no notice, so the document is the whole output.
  obtain ⟨notice, document, v, hstdout, hspells, -, htells, hnotice, -⟩ :=
    json_output desk (fun _ => none) args o 0 () hread rfl (.inl hexit)
  obtain rfl := hnotice nofun
  obtain ⟨bytes, hbytes, htext⟩ := htells
  obtain rfl := Except.ok.inj (hdecrypted.symm.trans hbytes)
  refine ⟨⟨o, hread, rfl⟩, hexit, v, ?_, htext plaintext rfl⟩
  rw [hstdout, String.empty_append]
  exact hspells

/-- Deleting all keys succeeds, and its output is no document although one is asked for. -/
theorem purge_output_not_json :
    let args := ["--json", "--crypto-url", "http://[::1]:8300", "purge-keys", "--yes"]
    let r := (run (answeringDesk []) (fun _ => none) args 0 ()).value
    (∃ o, Options.read (fun _ => none) args = .ok o ∧ o.json = true) ∧ r.exit = 0 ∧
      r.stdout = "Deleting all keys of NodeAuthServer...\n\x7b\"ok\":true\x7d\n" ∧
      ∀ v, ¬ Spells r.stdout.toList v := by
  intro args r
  let o : Options := ⟨"http://[::1]:8300", defaultName, defaultTimeout, true, .purgeKeys true⟩
  have hread : Options.read (fun _ => none) args = .ok o := by decide +kernel
  have hexit : r.exit = 0 := by decide +kernel
  have hstdout : r.stdout = "Deleting all keys of NodeAuthServer...\n\x7b\"ok\":true\x7d\n" := by
    decide +kernel
  refine ⟨⟨o, hread, rfl⟩, hexit, hstdout, fun v => ?_⟩
  rw [hstdout]
  exact Json.not_spells_of_not_mem (by decide)

end NodeAdmission.Admin
