import NodeAdmission.Admin.Help
import NodeAdmission.Admin.Report
import NodeAdmission.Admin.Style
import NodeAdmission.Crypto.Client
import NodeAdmission.Http.Proxy
import NodeAdmission.Text.Blank

/-!
# Carrying out commands

Every command comes down to one operation of the crypto service, with something to check
or to read before it and something to show or to write after it. The exit status is 0 only
if all of that succeeded.

* `Desk` — what commands are carried out with: the exchange for requests, and the files. They are
  actions in a monad that is left open, so that a run can be observed.
* `showing`, `doing` — a call whose result is shown, and one that only succeeds. All commands
  but four are one of these.
* `purgeKeys`, `exportKey`, `importKey`, `verifySignature` — the other four.
* `run` — a whole run: the arguments are read, and requests go through the
  proxies that variables name.

With `--json` a result is one JSON document on a line, or on several lines for the keys; without it,
it is a message for people.
-/

namespace NodeAdmission.Admin

open Crypto (Client KeyInfo)
open Http (Call RemoteError)

/-- What commands are carried out with. -/
structure Desk (m : Type → Type) where
  exchange : Http.Exchange m
  load : (path : String) → m (Except OsError Bytes)
  save : (path : String) → Bytes → m (Except OsError Unit)
  /-- Whether messages for people are coloured. -/
  coloured : Bool

variable {m : Type → Type} [Monad m]

/-! ### Results -/

def line (s : String) : String := s ++ "\n"

def doneLine (o : Options) (coloured : Bool) (message : String) : String :=
  line (if o.json then (Json.obj [("ok", .bool true)]).compact
    else Style.success.paint coloured message)

/-- The line that shows a text from the service. -/
def valueLine (o : Options) (label value : String) : String :=
  line (if o.json then (Json.obj [(label, .str value)]).compact else value)

def keyLines (o : Options) (coloured : Bool) (keys : List KeyInfo) : String :=
  if o.json then line (KeyInfo.listToJson keys).pretty
  else if keys.isEmpty then line (Style.notice.paint coloured ("No keys for " ++ o.name ++ "."))
  else
    line (Style.heading.paint coloured ("Keys for " ++ o.name ++ ":")) ++
      String.join (keys.map fun k =>
        line ("  " ++ k.name ++ " (provider " ++ Numeral.digits k.providerId.toNat ++ ")"))

def verdictLine (o : Options) (coloured valid : Bool) : String :=
  line <|
    if o.json then (Json.obj [("valid", .bool valid)]).compact
    else if valid then Style.success.paint coloured "Signature valid"
    else Style.failure.paint coloured "Signature INVALID"

/-! ### Commands -/

def client (o : Options) : Client := .new o.cryptoUrl (.ofSecs o.timeout)

/-- Makes a call and shows its result. -/
def showing (desk : Desk m) (before attempted : String) (call : Call α) (display : α → String) :
    m Report := do
  match ← call.perform desk.exchange with
  | .error e => return (Failure.ofCall attempted e).report before
  | .ok a => return { stdout := before ++ display a }

/-- Makes a call that succeeds without a result. -/
def doing (desk : Desk m) (o : Options) (before attempted message : String) (call : Call Unit) :
    m Report :=
  showing desk before attempted call fun _ => doneLine o desk.coloured message

/-- Deletes every key, which must have been confirmed. -/
def purgeKeys (desk : Desk m) (o : Options) (confirmed : Bool) : m Report :=
  if confirmed then
    -- The notice comes first, so that it is seen also if the deletion fails.
    let notice :=
      line (Style.notice.paint desk.coloured ("Deleting all keys of " ++ o.name ++ "..."))
    doing desk o notice "Failed to delete keys" "All keys deleted" ((client o).deleteAllKeys o.name)
  else
    let refusal := "Refusing to delete every key of " ++ o.name ++ " without --yes"
    return (Failure.mk refusal []).report ""

/-- Exports a public key, without the blanks at its end, to a file or to the output. -/
def exportKey (desk : Desk m) (o : Options) (key : String) (out : Option String) : m Report := do
  match ← ((client o).exportKey o.name key).perform desk.exchange with
  | .error e => return (Failure.ofCall ("Failed to export key " ++ key) e).report ""
  | .ok text =>
    match out with
    | none => return { stdout := valueLine o "publicKey" (Text.trimEnd text) }
    | some path =>
      -- The file gets the line with a line feed at its end, as the output does.
      match ← desk.save path (Utf8.encode (line (Text.trimEnd text))) with
      | .error e => return (Failure.ofSystem ("Failed to write " ++ path) e).report ""
      | .ok _ => return { stdout := doneLine o desk.coloured ("Wrote " ++ path) }

def keyLineStart : String := "ssh-rsa "

/-- The line of a public key without the blanks around it. -/
def readKeyLine (text : String) : Except Failure String :=
  let trimmed := Text.trimChars text.toList
  if keyLineStart.toList.isPrefixOf trimmed then .ok (String.ofList trimmed)
  else .error ⟨"Expected an ssh-rsa public key line", []⟩

def readSource (desk : Desk m) : KeySource → m (Except Failure String)
  | .line text => return .ok text
  | .file path => do
    let failure := Failure.ofSystem ("Failed to read " ++ path)
    match ← desk.load path with
    | .error e => return .error (failure e)
    | .ok bytes =>
      match Utf8.decode bytes with
      | .error _ => return .error (failure .notText)
      | .ok text => return .ok text

def importKey (desk : Desk m) (o : Options) (key : String) (source : KeySource) : m Report := do
  match (← readSource desk source).bind readKeyLine with
  | .error failure => return failure.report ""
  | .ok text =>
    doing desk o "" ("Failed to import key " ++ key) ("Imported key " ++ key)
      ((client o).importKey o.name key text)

/-- Verifies a signature; an invalid one is shown, and is no success. -/
def verifySignature (desk : Desk m) (o : Options) (key message signature : String) : m Report := do
  let outcome ← ((client o).verify o.name key message signature).perform desk.exchange
  -- A rejection is a verdict, and any other failure is none.
  match Client.judge outcome with
  | .error e => return (Failure.ofCall "Failed to verify" e).report ""
  | .ok valid =>
    return { stdout := verdictLine o desk.coloured valid, exit := if valid then 0 else 1 }

def execute (desk : Desk m) (o : Options) : m Report :=
  let c := client o
  match o.command with
  | .register =>
    doing desk o "" ("Failed to register " ++ o.name) ("Registered " ++ o.name) (c.register o.name)
  | .unregister =>
    doing desk o "" ("Failed to remove " ++ o.name) ("Removed " ++ o.name) (c.remove o.name)
  | .keys => showing desk "" "Failed to list keys" (c.listKeys o.name) (keyLines o desk.coloured)
  | .purgeKeys confirmed => purgeKeys desk o confirmed
  | .createEncryptionKey key =>
    doing desk o "" ("Failed to create key " ++ key) ("Created key " ++ key)
      (c.createEncryptionKey o.name key)
  | .createSigningKey key =>
    doing desk o "" ("Failed to create key " ++ key) ("Created key " ++ key)
      (c.createSigningKey o.name key)
  | .exportKey key out => exportKey desk o key out
  | .importKey key source => importKey desk o key source
  | .deleteKey key =>
    doing desk o "" ("Failed to delete key " ++ key) ("Deleted key " ++ key)
      (c.deleteKey o.name key)
  | .sign key message =>
    showing desk "" "Failed to sign" (c.sign o.name key message) (valueLine o "signature")
  | .verify key message signature => verifySignature desk o key message signature
  | .encrypt key message =>
    showing desk "" "Failed to encrypt" (c.encrypt o.name key message) (valueLine o "ciphertext")
  | .decrypt key ciphertext =>
    showing desk "" "Failed to decrypt" (c.decrypt o.name key ciphertext) fun plaintext =>
      valueLine o "plaintext" (Utf8.decodeLossy plaintext)

/-! ### Runs -/

def versionLine : String := line "nodeauth-admin 0.1.0"

def Stop.report (lookup : String → Option String) : Stop → Report
  | .usage => { stderr := usageText, exit := 2 }
  | .help topic => { stdout := topic.page lookup }
  | .version => { stdout := versionLine }

/-- A run with the given variables and arguments. Requests go through the
proxies that variables name. -/
def run (desk : Desk m) (lookup : String → Option String) (args : List String) : m Report :=
  match Options.read lookup args with
  | .error stop => return stop.report lookup
  | .ok o =>
    execute { desk with exchange := (Http.Proxies.ofVariables lookup).route desk.exchange } o

end NodeAdmission.Admin
