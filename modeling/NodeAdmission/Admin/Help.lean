import NodeAdmission.Admin.Arguments

/-!
# Help

What the command line says about itself. A page begins with what its subject is for and how it is
called; then come lists of terms, each explained beside it. The explanations of one list begin in
one column, which is two blanks behind the longest term (`Entry.start`).

There is a page about the program (`programPage`), one about each command (`Guidance.page`), and one
about asking for help (`helpPage`). What is said about the options before the command depends on the
variables that stand in for them. Arguments that are wrong are answered with `usageText`.
-/

namespace NodeAdmission.Admin

/-! ### Lists of terms -/

structure Entry where
  term : List Char
  about : String
deriving DecidableEq, Repr

namespace Entry

def width : List Entry → Nat
  | [] => 0
  | e :: es => max e.term.length (width es)

/-- What stands before the explanation: the term with a margin on both sides. -/
def start (e : Entry) (width : Nat) : List Char :=
  ' ' :: ' ' :: e.term ++ List.replicate (width + 2 - e.term.length) ' '

def line (e : Entry) (width : Nat) : String := String.ofList (e.start width) ++ e.about ++ "\n"

end Entry

/-- A list under its title; one without entries is left out. -/
def listing (title : String) (entries : List Entry) : String :=
  if entries.isEmpty then ""
  else "\n" ++ title ++ ":\n" ++ String.join (entries.map (·.line (Entry.width entries)))

/-! ### Options and words -/

/-- The entry of an option with its short and its long name and the kind of its value. -/
def optionEntry (short : Option Char) (long : String) (value : Option String) (about : String) :
    Entry where
  term :=
    (match short with
      | some c => ['-', c, ',', ' ']
      | none => [' ', ' ', ' ', ' ']) ++
    '-' :: '-' :: long.toList ++
    (match value with
      | some v => ' ' :: '<' :: v.toList ++ ['>']
      | none => [])
  about

/-- The option that every page has. -/
def helpEntry : Entry := optionEntry (some 'h') "help" none "Print help"

/-- A word as it is called. -/
def wordTerm (word : String) : String := "<" ++ word ++ ">"

/-- What stands for an option that is not given: a variable with its value, and what it is else. -/
def fallback (source : Option (String × Option String)) (default : String) : String :=
  (match source with
    | some (name, value) => " [env: " ++ name ++ "=" ++ value.getD "" ++ "]"
    | none => "") ++
  " [default: " ++ default ++ "]"

/-- The options before the command, with what the variables say. -/
def globalEntries (lookup : String → Option String) : List Entry :=
  let known (name : String) := some (name, lookup name)
  [ optionEntry (some 'u') "crypto-url" (some "CRYPTO_URL")
      ("Crypto-operations service URL" ++ fallback (known "CRYPTO_URL") defaultCryptoUrl),
    optionEntry (some 'n') "name" (some "NAME")
      ("Client identity to act as" ++ fallback (known "CRYPTO_CLIENT_NAME") defaultName),
    optionEntry none "timeout" (some "TIMEOUT")
      ("Request timeout in seconds" ++ fallback none (Numeral.digits defaultTimeout.toNat)),
    optionEntry none "json" none "Machine-readable output",
    helpEntry,
    optionEntry (some 'V') "version" none "Print version" ]

/-! ### Commands -/

/-- What is said about a command: what it does, its words and its own options. -/
structure Guidance where
  name : String
  about : String
  words : List String := []
  options : List Entry := []

def guidances : List Guidance :=
  [ { name := "register", about := "Register the client identity (idempotent)" },
    { name := "unregister", about := "Remove the client identity" },
    { name := "keys", about := "List the identity's keys" },
    { name := "purge-keys", about := "Delete every key the identity owns"
      options := [optionEntry none "yes" none "Required, the deletion cannot be undone"] },
    { name := "create-enc-key", about := "Create an encryption key pair", words := ["KEY"] },
    { name := "create-sign-key", about := "Create a signing key pair", words := ["KEY"] },
    { name := "export-key", about := "Print a public key as an ssh-rsa line", words := ["KEY"]
      options :=
        [optionEntry none "out" (some "OUT") "Write the line to a file instead of stdout"] },
    { name := "import-key", about := "Import a public key from an ssh-rsa line", words := ["KEY"]
      options :=
        [ optionEntry none "file" (some "FILE") "File holding the ssh-rsa line",
          optionEntry none "line" (some "LINE") "The ssh-rsa line itself" ] },
    { name := "delete-key", about := "Delete a key", words := ["KEY"] },
    { name := "sign", about := "Sign a message", words := ["KEY", "MESSAGE"] },
    { name := "verify", about := "Verify a base64 signature over a message"
      words := ["KEY", "MESSAGE", "SIGNATURE"] },
    { name := "encrypt", about := "Encrypt a message, printing base64 ciphertext"
      words := ["KEY", "MESSAGE"] },
    { name := "decrypt", about := "Decrypt base64 ciphertext", words := ["KEY", "CIPHERTEXT"] } ]

/-- What is said about asking for help. -/
def helpAboutHelp : String := "Print this message or the help of the given subcommand(s)"

/-! ### Pages -/

/-- How the program is called, with what follows its name. -/
def callLine (rest : List String) : String :=
  "Usage: " ++ String.intercalate " " ("nodeauth-admin" :: rest) ++ "\n"

def programPage (lookup : String → Option String) : String :=
  "Operator CLI for provisioning node admission keys\n\n" ++ callLine ["[OPTIONS]", "<COMMAND>"] ++
  listing "Commands"
    ((guidances.map fun g => ⟨g.name.toList, g.about⟩) ++ [⟨"help".toList, helpAboutHelp⟩]) ++
  listing "Options" (globalEntries lookup)

def Guidance.page (g : Guidance) : String :=
  let options := if g.options.isEmpty then [] else ["[OPTIONS]"]
  g.about ++ "\n\n" ++ callLine (g.name :: options ++ g.words.map wordTerm) ++
  listing "Arguments" (g.words.map fun w => ⟨(wordTerm w).toList, ""⟩) ++
  listing "Options" (g.options ++ [helpEntry])

def helpPage : String :=
  helpAboutHelp ++ "\n\n" ++ callLine ["help", "[COMMAND]..."] ++
  listing "Arguments" [⟨"[COMMAND]...".toList, "Print help for the subcommand(s)"⟩]

def Topic.page (lookup : String → Option String) : Topic → String
  | .program => programPage lookup
  | .command name =>
    match guidances.find? (·.name = name) with
    | some g => g.page
    | none => helpPage

def usageText : String :=
  callLine ["[OPTIONS]", "<COMMAND>"] ++ "\nFor more information, try '--help'.\n"

end NodeAdmission.Admin
