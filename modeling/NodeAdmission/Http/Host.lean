import NodeAdmission.Http.DomainName
import NodeAdmission.Text.Utf8

/-!
# Hosts

The host of a URL is a domain name, an IPv4 address or an IPv6 address in brackets. Addresses
may be spelled in several ways (`127.1`, `0x7f000001`, `[0:0:0:0:0:0:0:1]`) and are written
in one, and so are names.

Whether a host without brackets is an address is decided by its last part: if that is a number,
the host is an IPv4 address or nothing (`endsInNumber`). Percent escapes are resolved before
that, and names are folded (`DomainName.toAscii?`), so that all spellings of a host are equal
when they have been read.
-/

namespace NodeAdmission.Http

inductive Host where
  | domain (name : String)
  | ipv4 (address : Nat)
  | ipv6 (groups : List Nat)
deriving DecidableEq, Repr

namespace Host

/-- The bytes that a text with percent escapes stands for. -/
def percentDecode : List Char → Bytes
  | [] => []
  | '%' :: a :: b :: cs =>
    match Numeral.hexDigit? a, Numeral.hexDigit? b with
    | some x, some y => UInt8.ofNat (x * 16 + y) :: percentDecode cs
    | _, _ => Utf8.encodeChar '%' ++ percentDecode (a :: b :: cs)
  | c :: cs => Utf8.encodeChar c ++ percentDecode cs

/-! ### IPv4 -/

/-- The digits of a number in a base, by a test for each digit. -/
def digitsIn (base : Nat) : List Char → Option Nat :=
  fun cs => cs.foldl (fun n c => do
    let n ← n
    let d ← Numeral.hexDigit? c
    if d < base then some (n * base + d) else none) (some 0)

/-- A part of an IPv4 address: decimal, octal after a zero, or hexadecimal after `0x`. -/
def ipv4Part? : List Char → Option Nat
  | [] => none
  | ['0'] => some 0
  | '0' :: 'x' :: cs => digitsIn 16 cs
  | '0' :: 'X' :: cs => digitsIn 16 cs
  | '0' :: cs => digitsIn 8 cs
  | cs => digitsIn 10 cs

/-- The parts of a dotted name, without the empty one behind a final dot. -/
def dottedParts (cs : List Char) : List (List Char) :=
  match (Text.pieces '.' cs).reverse with
  | [] :: p :: ps => (p :: ps).reverse
  | ps => ps.reverse

/-- Whether a name must be an IPv4 address: its last part is a number. -/
def endsInNumber (cs : List Char) : Bool :=
  match (dottedParts cs).getLast? with
  | none => false
  | some last => (!last.isEmpty && last.all fun c => '0' ≤ c && c ≤ '9') || (ipv4Part? last).isSome

/-- The address of one to four parts: each but the last is a byte, and the last fills the rest. -/
def ipv4? (cs : List Char) : Option Nat := do
  let parts := dottedParts cs
  if parts.length > 4 then none
  else
    let ns ← parts.mapM ipv4Part?
    let last ← ns.getLast?
    let init := ns.dropLast
    if init.any (· > 255) then none
    else if last ≥ Nat.pow 256 (5 - ns.length) then none
    else some (init.foldl (fun n b => n * 256 + b) 0 * Nat.pow 256 (5 - ns.length) + last)

def renderIpv4 (a : Nat) : String :=
  toString (a / 16777216) ++ "." ++ toString (a / 65536 % 256) ++ "." ++ toString (a / 256 % 256) ++
    "." ++ toString (a % 256)

/-! ### IPv6 -/

def group? (cs : List Char) : Option Nat :=
  if cs.isEmpty || cs.length > 4 then none else digitsIn 16 cs

def decimalByte? (cs : List Char) : Option Nat :=
  if cs.isEmpty || cs.length > 3 || (cs.length > 1 && cs.head? = some '0') then none
  else (digitsIn 10 cs).bind fun n => if n < 256 then some n else none

/-- The two groups of an IPv4 address at the end of an IPv6 address. -/
def embeddedIpv4? (cs : List Char) : Option (List Nat) :=
  match (Text.pieces '.' cs).mapM decimalByte? with
  | some [a, b, c, d] => some [a * 256 + b, c * 256 + d]
  | _ => none

/-- Groups separated by colons; the last may be an IPv4 address. -/
def groups? (cs : List Char) : Option (List Nat) :=
  if cs.isEmpty then some []
  else
    let parts := Text.pieces ':' cs
    match parts.getLast? with
    | none => none
    | some last => do
      let init ← parts.dropLast.mapM group?
      let tail ← if last.contains '.' then embeddedIpv4? last else (group? last).map ([·])
      return init ++ tail

/-- The texts before and after the first `::`. -/
def splitGap : List Char → Option (List Char × List Char)
  | [] => none
  | [_] => none
  | ':' :: ':' :: cs => some ([], cs)
  | c :: cs => (splitGap cs).map fun (a, b) => (c :: a, b)

/-- The eight groups of an IPv6 address; `::` stands for one or more zero groups. -/
def ipv6? (cs : List Char) : Option (List Nat) :=
  match splitGap cs with
  -- Without a gap all eight groups have to be there.
  | none => do
    let gs ← groups? cs
    if gs.length = 8 then some gs else none
  | some (before, after) => do
    let as ← groups? before
    let bs ← groups? after
    if as.length + bs.length < 8 && !(before.contains '.') then
      some (as ++ List.replicate (8 - as.length - bs.length) 0 ++ bs)
    else none

def hex (n : Nat) : String := String.ofList (Nat.toDigits 16 n)

def leadingZeros (gs : List Nat) : Nat := (gs.takeWhile (· = 0)).length

/-- The place and length of the first longest run of at least two zeros. -/
def longestRun (gs : List Nat) : Option (Nat × Nat) :=
  (List.range gs.length).foldl (fun best i =>
    let n := leadingZeros (gs.drop i)
    match best with
    | none => if n > 1 then some (i, n) else none
    | some (_, m) => if n > m then some (i, n) else best) none

def renderGroups (gs : List Nat) : String := String.intercalate ":" (gs.map hex)

/-- An IPv6 address, its longest run of zeros written `::`. -/
def renderIpv6 (gs : List Nat) : String :=
  match longestRun gs with
  | none => renderGroups gs
  | some (i, n) => renderGroups (gs.take i) ++ "::" ++ renderGroups (gs.drop (i + n))

/-! ### Hosts -/

def read? (cs : List Char) : Option Host :=
  match cs with
  | '[' :: rest =>
    match rest.reverse with
    | ']' :: inner => (ipv6? inner.reverse).map .ipv6
    | _ => none
  | _ =>
    match DomainName.toAscii? (Utf8.decodeLossy (percentDecode cs)).toList with
    -- A host is not empty.
    | none | some [] => none
    | some name =>
      if endsInNumber name then (ipv4? name).map .ipv4 else some (.domain (String.ofList name))

def render : Host → String
  | .domain name => name
  | .ipv4 a => renderIpv4 a
  | .ipv6 gs => "[" ++ renderIpv6 gs ++ "]"

end Host
end NodeAdmission.Http
