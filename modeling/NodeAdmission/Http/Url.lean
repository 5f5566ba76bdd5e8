import NodeAdmission.Http.Host
import NodeAdmission.Text.Numeral

/-!
# URLs

The URLs that a request can be sent to: `http` or `https`, a host, perhaps a port, a path and a
query. `Url.read` follows the URL standard:

* blanks around the text are dropped, and so are line breaks and tabs inside it;
* backslashes count as slashes, and it does not matter how many stand in front of the host;
* dot segments are resolved, also where they are spelled with percent escapes;
* characters outside the allowed sets are percent-encoded;
* credentials are not kept, and a fragment is no part of what is sent.

Not every URL that can be read can be used for a request: `Url.isSendable` says which.
-/

namespace NodeAdmission.Http

/-- A URL that a request can be sent to. -/
structure Url where
  secure : Bool
  host : Host
  /-- The port, unless it is the scheme's own. -/
  port : Option UInt16
  path : String
  query : Option String
  fragment : Option String
deriving DecidableEq, Repr

/-- Why a text is not such a URL. -/
inductive UrlError where
  | noScheme
  | otherScheme
  | badPort
  | badHost
deriving DecidableEq, Repr

namespace Url

/-! ### Percent encoding -/

def escapeByte (b : UInt8) : List Char :=
  let digit (n : Nat) := if n < 10 then Char.ofNat (48 + n) else Char.ofNat (55 + n)
  ['%', digit (b.toNat / 16), digit (b.toNat % 16)]

/-- Escapes the characters that a test picks, and every character outside printable ASCII. -/
def percentEncode (picked : Char → Bool) (cs : List Char) : List Char :=
  cs.flatMap fun c =>
    if c.toNat < 0x21 || c.toNat > 0x7E || picked c then (Utf8.encodeChar c).flatMap escapeByte
    else [c]

def inPath (c : Char) : Bool := "\"#<>?\x60\x7b\x7d".toList.contains c

def inQuery (c : Char) : Bool := "\"#<>'".toList.contains c

def inFragment (c : Char) : Bool := "\"<>\x60".toList.contains c

/-! ### Paths -/

/-- A segment that stands for the present directory. -/
def isSingleDot (segment : List Char) : Bool :=
  let s := String.ofList (segment.map Char.toLower)
  s = "." || s = "%2e"

/-- A segment that stands for the directory above. -/
def isDoubleDot (segment : List Char) : Bool :=
  let s := String.ofList (segment.map Char.toLower)
  s = ".." || s = ".%2e" || s = "%2e." || s = "%2e%2e"

/-- A segment that names a drive: a letter and a colon or bar. -/
def isDrive : List Char → Bool
  | [c, mark] => c.isAlpha && (mark = ':' || mark = '|')
  | _ => false

/-- The segments of the directory above, in reverse like those it is given; there
is none above a drive. -/
def above : List (List Char) → List (List Char)
  | [] => []
  | s :: kept => if isDrive s then s :: kept else kept

/-- Resolves dot segments; `kept` holds the segments before in reverse. -/
def resolve (kept : List (List Char)) : List (List Char) → List (List Char)
  | [] => kept.reverse
  -- The last segment names no directory, so dots leave an empty segment in its place.
  | [s] =>
    if isDoubleDot s then ([] :: above kept).reverse
    else if isSingleDot s then ([] :: kept).reverse
    else (s :: kept).reverse
  | s :: rest =>
    if isDoubleDot s then resolve (above kept) rest
    else if isSingleDot s then resolve kept rest
    else resolve (s :: kept) rest

/-- The path of a URL, from the text behind its host. -/
def normalizePath (cs : List Char) : String :=
  let slashed := cs.map fun c => if c = '\\' then '/' else c
  let segments :=
    match slashed with
    | '/' :: rest => Text.pieces '/' rest
    | rest => Text.pieces '/' rest
  String.ofList ((resolve [] (segments.map (percentEncode inPath))).flatMap ('/' :: ·))

/-! ### Reading -/

/-- Whether a character stands at the end of a host and its port. -/
def endsAuthority (c : Char) : Bool := c = '/' || c = '\\' || c = '?' || c = '#'

/-- The text without control characters and blanks around it, and without line breaks and tabs. -/
def stripped (s : String) : List Char :=
  let outer (c : Char) : Bool := c.toNat ≤ 0x20
  let cs := ((s.toList.dropWhile outer).reverse.dropWhile outer).reverse
  cs.filter fun c => !(c = '\t' || c = '\n' || c = '\r')

def scheme? (cs : List Char) : Option (String × List Char) :=
  let allowed (c : Char) : Bool := c.isAlphanum || c = '+' || c = '-' || c = '.'
  match cs.takeWhile allowed, cs.dropWhile allowed with
  | c :: name, ':' :: rest =>
    if c.isAlpha then some (String.ofList ((c :: name).map Char.toLower), rest) else none
  | _, _ => none

def afterCredentials (authority : List Char) : List Char :=
  (authority.reverse.takeWhile (· ≠ '@')).reverse

/-- The host and the text of the port, which is absent without a colon outside brackets. -/
def splitPort (authority : List Char) : List Char × Option (List Char) :=
  let tail := (authority.reverse.takeWhile fun c => c ≠ ':' && c ≠ ']').reverse
  let front := authority.take (authority.length - tail.length)
  match front.reverse with
  | ':' :: host => (host.reverse, some tail)
  | _ => (authority, none)

/-- The port, if it is given and not the scheme's own. -/
def port? (secure : Bool) : Option (List Char) → Except UrlError (Option UInt16)
  | none => .ok none
  | some cs =>
    if cs.any fun c => !c.isDigit then .error .badPort
    else
      match Numeral.readUInt16 (String.ofList cs) with
      | .ok p => .ok (if p = (if secure then 443 else 80) then none else some p)
      -- A colon without a port is as good as none.
      | .error .empty => .ok none
      | .error _ => .error .badPort

/-- What stands behind the host: path, query and fragment. -/
def tail (secure : Bool) (host : Host) (port : Option UInt16) (cs : List Char) : Url :=
  let beforeFragment := cs.takeWhile (· ≠ '#')
  let fragment := (cs.dropWhile (· ≠ '#')).tail?
  let path := beforeFragment.takeWhile (· ≠ '?')
  let query := (beforeFragment.dropWhile (· ≠ '?')).tail?
  { secure, host, port
    path := normalizePath path
    query := query.map fun q => String.ofList (percentEncode inQuery q)
    fragment := fragment.map fun f => String.ofList (percentEncode inFragment f) }

def read (s : String) : Except UrlError Url :=
  match scheme? (stripped s) with
  | none => .error .noScheme
  | some (scheme, rest) =>
    if scheme ≠ "http" ∧ scheme ≠ "https" then .error .otherScheme
    else
      let secure := scheme = "https"
      let rest := rest.dropWhile fun c => c = '/' || c = '\\'
      let authority := rest.takeWhile fun c => !endsAuthority c
      let (hostText, portText) := splitPort (afterCredentials authority)
      match Host.read? hostText, port? secure portText with
      | none, _ => .error .badHost
      | _, .error e => .error e
      | some host, .ok port =>
        .ok (tail secure host port (rest.dropWhile fun c => !endsAuthority c))

/-! ### Writing -/

/-- What a request line names: the path and the query. -/
def target (u : Url) : String :=
  u.path ++ (match u.query with | none => "" | some q => "?" ++ q)

def portNumber (u : Url) : UInt16 := u.port.getD (if u.secure then 443 else 80)

def origin (u : Url) : String :=
  (if u.secure then "https://" else "http://") ++ u.host.render ++
    (match u.port with | none => "" | some p => ":" ++ toString p.toNat)

def render (u : Url) : String :=
  u.origin ++ u.target ++
    (match u.fragment with | none => "" | some f => "#" ++ f)

/-- The longest URL that a request can be addressed with, in bytes. -/
def longest : Nat := 65534

/-- Whether a request can be addressed with the URL: it is not too long, and the name of its host
holds only what a request line allows. -/
def isSendable (u : Url) : Bool :=
  u.render.utf8ByteSize ≤ longest &&
    match u.host with
    | .domain name => name.toList.all fun c => c.isAlphanum || "!$&'()*+,-.;=_~".toList.contains c
    | _ => true

end Url
end NodeAdmission.Http
