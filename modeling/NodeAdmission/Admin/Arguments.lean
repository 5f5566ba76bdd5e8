import NodeAdmission.Admin.Command
import NodeAdmission.Text.Numeral

/-!
# Arguments of the command line

    program [options] command [options and words]

Arguments are read from the left (`leading`, `items`) and taken in that order; the first that is
wrong, or that asks for help or the version, decides. An option has a long name and perhaps a short
one; its value is the rest of the argument (`--name=x`, `-nx`, `-n=x`) or the next argument, which
must not look like an option. After `--` every argument is a word. No option may be repeated.

There are three stages:

* `Level.read` — what an argument says by itself, among the options that are known at its place;
* `leading`, `items` — what arguments say one after another, before the command and behind it;
* `gather`, `Command.ofDraft?` — what that amounts to.

`Options.read` puts them together. An option that is not given has the value of its variable, or
else its default; the time limit has no variable.
-/

namespace NodeAdmission.Admin

/-! ### How an argument looks -/

/-- What an argument looks like. -/
inductive Shape where
  /-- `--` alone. -/
  | escape
  /-- `--name` or `--name=value`. -/
  | long (name : String) (attached : Option String)
  /-- `-abc`. -/
  | short (letters : List Char)
  /-- Anything else, such as `-` alone. -/
  | word (w : String)
deriving DecidableEq, Repr

def splitAssignment (cs : List Char) : String × Option String :=
  (String.ofList (cs.takeWhile (· ≠ '=')),
    match cs.dropWhile (· ≠ '=') with
    | [] => none
    | _ :: value => some (String.ofList value))

def Shape.of (arg : String) : Shape :=
  match arg.toList with
  | ['-', '-'] => .escape
  | '-' :: '-' :: cs => let (name, attached) := splitAssignment cs; .long name attached
  | ['-'] => .word arg
  | '-' :: c :: cs => .short (c :: cs)
  | _ => .word arg

/-! ### Items -/

/-- The options that are known at one place of the command line. -/
structure Level where
  /-- Options with a value, by their long and perhaps a short name. -/
  valued : List (String × Option Char) := []
  /-- Options without a value. -/
  flags : List String := []
  /-- Whether the version can be asked for. -/
  tellsVersion : Bool := false

/-- What the arguments say. -/
inductive Item where
  | valued (option value : String)
  | flag (option : String)
  | word (w : String)
  | help
  | version
  /-- An argument that is wrong. -/
  | bad
deriving DecidableEq, Repr

/-- What an argument says by itself, or the option that needs the next argument. -/
inductive Reading where
  | item (i : Item)
  | needsValue (option : String)
  | escape
deriving DecidableEq, Repr

namespace Level

/-- Reads an argument `--name` or `--name=value`. -/
def readLong (level : Level) (name : String) (attached : Option String) : Reading :=
  if (level.valued.map Prod.fst).contains name then
    match attached with
    | some value => .item (.valued name value)
    | none => .needsValue name
  else if attached.isSome then .item .bad
  else if level.flags.contains name then .item (.flag name)
  else if name = "help" then .item .help
  else if name = "version" && level.tellsVersion then .item .version
  else .item .bad

def readShort (level : Level) (c : Char) (rest : List Char) : Reading :=
  match level.valued.find? (·.2 = some c) with
  | some (name, _) =>
    match rest with
    | [] => .needsValue name
    | '=' :: value => .item (.valued name (String.ofList value))
    -- The value is the rest of the argument, with an equals sign in front or without.
    | value => .item (.valued name (String.ofList value))
  | none =>
    if c = 'h' then .item .help
    else if c = 'V' && level.tellsVersion then .item .version
    else .item .bad

def read (level : Level) (arg : String) : Reading :=
  match Shape.of arg with
  | .escape => .escape
  | .long name attached => level.readLong name attached
  | .short [] => .item .bad
  | .short (c :: rest) => level.readShort c rest
  | .word w => .item (.word w)

end Level

/-- The arguments up to the command. -/
structure Opening where
  items : List Item
  /-- The option right before the command if its value is an argument of its own; it is checked
  only after the command. -/
  late : List Item
  /-- The command and what follows it. -/
  command : Option (String × List String)

namespace Opening

/-- An item in front. -/
def after (i : Item) (o : Opening) : Opening := { o with items := i :: o.items }

/-- In front, an option whose value is an argument of its own. -/
def afterValued (option value : String) (o : Opening) : Opening :=
  if o.items.isEmpty && o.late.isEmpty && o.command.isSome then
    { o with late := [.valued option value] }
  else o.after (.valued option value)

def wrong : Opening := ⟨[.bad], [], none⟩

end Opening

/-- The arguments up to the first word, which is the command. -/
def leading (level : Level) : List String → Opening
  | [] => ⟨[], [], none⟩
  | arg :: args =>
    match level.read arg with
    -- There are no words before the command, and so nothing to escape.
    | .escape => .wrong
    | .item (.word w) => ⟨[], [], some (w, args)⟩
    | .item i => (leading level args).after i
    | .needsValue option =>
      match args with
      | [] => .wrong
      | value :: args =>
        match Shape.of value with
        | .word v => (leading level args).afterValued option v
        | _ => .wrong

def items (level : Level) : List String → List Item
  | [] => []
  | arg :: args =>
    match level.read arg with
    -- Whatever follows is a word, also what looks like an option.
    | .escape => args.map .word
    | .item i => i :: items level args
    | .needsValue option =>
      match args with
      | [] => [.bad]
      | value :: args =>
        match Shape.of value with
        | .word v => .valued option v :: items level args
        | _ => [.bad]

/-! ### What the items amount to -/

/-- What help can be asked about. -/
inductive Topic where
  | program
  /-- A command, or asking for help itself. -/
  | command (name : String)
deriving DecidableEq, Repr

/-- Why no command is carried out. -/
inductive Stop where
  /-- The arguments are wrong. -/
  | usage
  | help (topic : Topic)
  | version
deriving DecidableEq, Repr

/-- What is gathered from the items of one place. -/
structure Draft where
  valued : List (String × String) := []
  flags : List String := []
  words : List String := []

def Draft.value? (d : Draft) (option : String) : Option String :=
  (d.valued.find? (·.1 = option)).map Prod.snd

/-- Gathers items. A value must pass the check of its option, and there may be only so many words;
help is about the topic of the place. -/
def gather (topic : Topic) (check : (option value : String) → Bool) (arity : Nat) :
    List Item → Draft → Except Stop Draft
  | [], d => .ok d
  | .bad :: _, _ => .error .usage
  | .help :: _, _ => .error (.help topic)
  | .version :: _, _ => .error .version
  | .valued option value :: is, d =>
    if (d.value? option).isSome || !check option value then .error .usage
    else gather topic check arity is { d with valued := d.valued ++ [(option, value)] }
  | .flag option :: is, d =>
    if d.flags.contains option then .error .usage
    else gather topic check arity is { d with flags := d.flags ++ [option] }
  | .word w :: is, d =>
    if d.words.length < arity then gather topic check arity is { d with words := d.words ++ [w] }
    else .error .usage

def globalLevel : Level :=
  { valued := [("crypto-url", some 'u'), ("name", some 'n'), ("timeout", none)]
    flags := ["json"]
    tellsVersion := true }

/-- A time limit is a number of 64 bits. -/
def checkGlobal (option value : String) : Bool :=
  if option = "timeout" then
    match Numeral.readUInt64 value with
    | .ok _ => true
    | .error _ => false
  else true

/-- The options of a command and how many words it has. -/
def commandLevel? (name : String) : Option (Level × Nat) :=
  if name = "register" || name = "unregister" || name = "keys" then some ({}, 0)
  else if name = "purge-keys" then some ({ flags := ["yes"] }, 0)
  else if name = "create-enc-key" || name = "create-sign-key" || name = "delete-key" then
    some ({}, 1)
  else if name = "export-key" then some ({ valued := [("out", none)] }, 1)
  else if name = "import-key" then some ({ valued := [("file", none), ("line", none)] }, 1)
  else if name = "sign" || name = "encrypt" || name = "decrypt" then some ({}, 2)
  else if name = "verify" then some ({}, 3)
  else none

def checkPath (option value : String) : Bool :=
  if option = "out" || option = "file" then value ≠ "" else true

/-- The command that a name and its arguments stand for. -/
def Command.ofDraft? (name : String) (d : Draft) : Option Command :=
  match d.words with
  | [] =>
    if name = "register" then some .register
    else if name = "unregister" then some .unregister
    else if name = "keys" then some .keys
    else if name = "purge-keys" then some (.purgeKeys (d.flags.contains "yes"))
    else none
  | [key] =>
    if name = "create-enc-key" then some (.createEncryptionKey key)
    else if name = "create-sign-key" then some (.createSigningKey key)
    else if name = "delete-key" then some (.deleteKey key)
    else if name = "export-key" then some (.exportKey key (d.value? "out"))
    else if name = "import-key" then
      match d.value? "file", d.value? "line" with
      | some path, none => some (.importKey key (.file path))
      | none, some text => some (.importKey key (.line text))
      | _, _ => none
    else none
  | [key, text] =>
    if name = "sign" then some (.sign key text)
    else if name = "encrypt" then some (.encrypt key text)
    else if name = "decrypt" then some (.decrypt key text)
    else none
  | [key, message, signature] =>
    if name = "verify" then some (.verify key message signature) else none
  | _ => none

/-- Asking for help, about the whole or about one command; commands have no
commands of their own. -/
def helpAbout : (names : List String) → Stop
  | [] => .help .program
  | [name] => if (commandLevel? name).isSome || name = "help" then .help (.command name) else .usage
  | _ => .usage

def Command.read (name : String) (args : List String) : Except Stop Command :=
  if name = "help" then .error (helpAbout args)
  else
    match commandLevel? name with
    | none => .error .usage
    | some (level, arity) =>
      match gather (.command name) checkPath arity (items level args) {} with
      | .error stop => .error stop
      | .ok d => (Command.ofDraft? name d).elim (.error .usage) .ok

def defaultCryptoUrl : String := "http://127.0.0.1:8300"

def defaultName : String := "NodeAuthServer"

/-- The time limit in seconds unless another one is given. -/
def defaultTimeout : UInt64 := 10

/-- Reads the arguments; variables stand in for options that are not given. -/
def Options.read (lookup : String → Option String) (args : List String) : Except Stop Options := do
  let opening := leading globalLevel args
  let d ← gather .program checkGlobal 0 opening.items {}
  let (name, args) ← opening.command.elim (.error .usage) .ok
  let command ← Command.read name args
  -- An option right before the command is checked last, after the command itself.
  let d ← gather .program checkGlobal 0 opening.late d
  let timeout :=
    match (d.value? "timeout").map Numeral.readUInt64 with
    | some (.ok n) => n
    | _ => defaultTimeout
  return {
    cryptoUrl := ((d.value? "crypto-url").or (lookup "CRYPTO_URL")).getD defaultCryptoUrl
    name := ((d.value? "name").or (lookup "CRYPTO_CLIENT_NAME")).getD defaultName
    timeout
    json := d.flags.contains "json"
    command }

end NodeAdmission.Admin
