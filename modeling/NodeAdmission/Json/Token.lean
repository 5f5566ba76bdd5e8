import NodeAdmission.Text.Utf8

/-!
# The tokens of a JSON text

The first stage of reading JSON

    bytes ──scan──▶ tokens ──assemble──▶ `Parsed` ──decode──▶ a typed value

is a machine that takes one byte at a time (`Scan.step`), so a text that arrives in parts is read
like one that arrives at once. It stops at the first byte that no JSON text could have there, and
the last token then carries the `Damage`. A value that is only skipped is checked less strictly than
one that is kept, so damage names the error of both.

* Strings are kept as pieces, bytes and UTF-16 units, until somebody wants their text (`textOf`):
  only then does it matter whether surrogates are paired and bytes are UTF-8.
* Numbers are kept as they are written. As a whole number counts what has neither fraction nor
  exponent (`Number.int?`); what is too large for double precision is malformed
  (`Number.overflows`), also where nobody asks for its value.
* A number ends at the byte behind it, which begins the next token (`Scan.stepNumber`), so the end
  of the text has to be told (`Scan.finish`).
-/

namespace NodeAdmission.Json

/-- Why a JSON text is not a value of the wanted type. -/
inductive DecodeError where
  /-- The text ends too early. -/
  | truncated
  /-- The text is not JSON. -/
  | malformed
  /-- The text is JSON, but not of the wanted type. -/
  | mismatch
deriving DecidableEq, Repr

def DecodeError.message : DecodeError → String
  | .truncated => "the text ends too early"
  | .malformed => "the text is not JSON"
  | .mismatch => "the text is not of the expected shape"

/-- What is wrong at the place where reading stopped, for a reader that keeps the value and
for one that skips it. -/
structure Damage where
  kept : DecodeError
  skipped : DecodeError
deriving DecidableEq, Repr

/-- Damage that is the same for both readers. -/
def Damage.plain (e : DecodeError) : Damage := ⟨e, e⟩

/-! ### Strings -/

/-- A piece of a string's content: a byte, or a UTF-16 unit that was written with four hexadecimal
digits. -/
inductive Piece where
  | byte (b : UInt8)
  | unit (u : Nat)
deriving DecidableEq, Repr

/-- The units that begin a surrogate pair. -/
def isLeading (u : Nat) : Bool := 0xD800 ≤ u && u ≤ 0xDBFF

/-- The units that end a surrogate pair. -/
def isTrailing (u : Nat) : Bool := 0xDC00 ≤ u && u ≤ 0xDFFF

def pairChar (u v : Nat) : Char := Char.ofNat (0x10000 + (u - 0xD800) * 1024 + (v - 0xDC00))

/-- What follows a leading unit that the content ends in. -/
inductive Pairing where
  | paired
  | dangling
  | lone
deriving DecidableEq, Repr

/-- Whether every surrogate of the content is half of a pair. -/
def pairing : List Piece → Pairing
  | [] => .paired
  | .byte _ :: ps => pairing ps
  | .unit u :: ps =>
    if isTrailing u then .lone
    else if isLeading u then
      match ps with
      | [] => .dangling
      | .unit v :: ps' => if isTrailing v then pairing ps' else .lone
      | .byte _ :: _ => .lone
    else pairing ps

/-- The bytes of content whose surrogates are paired, in reverse and in front of `done`. -/
def contentOnto (done : Bytes) : List Piece → Bytes
  | [] => done
  | .byte b :: ps => contentOnto (b :: done) ps
  | .unit u :: ps =>
    if isLeading u then
      match ps with
      | .unit v :: ps' => contentOnto ((Utf8.encodeChar (pairChar u v)).reverse ++ done) ps'
      | ps' => contentOnto done ps'
    else contentOnto ((Utf8.encodeChar (Char.ofNat u)).reverse ++ done) ps

/-- The text of a complete string: its surrogates are paired and its bytes are UTF-8. -/
def textOf (ps : List Piece) : Except DecodeError String :=
  match pairing ps with
  | .paired =>
    match Utf8.decode (contentOnto [] ps).reverse with
    | .ok s => .ok s
    | .error _ => .error .malformed
  | .dangling => .error .malformed
  | .lone => .error .malformed

/-- The damage of a string that breaks off after the pieces with error `e`: a lone surrogate before
that place is found first, unless the string is skipped. -/
def stringDamage (ps : List Piece) (e : DecodeError) : Damage :=
  ⟨if pairing ps = .lone then .malformed else e, e⟩

/-! ### Numbers -/

/-- A number as it is written; digits are in the order of the text. -/
structure Number where
  negative : Bool
  whole : List Nat
  fraction : Option (List Nat)
  exponent : Option (Bool × List Nat)
deriving DecidableEq, Repr

def digitsValue (ds : List Nat) : Nat := ds.foldl (fun n d => n * 10 + d) 0

/-- The whole number that is written, unless it has a fraction or an exponent, is a negative zero,
or does not fit 64 bits. -/
def Number.int? (n : Number) : Option Int :=
  match n.fraction, n.exponent with
  | none, none =>
    let v := digitsValue n.whole
    if n.negative then if 0 < v ∧ v ≤ Nat.pow 2 63 then some (-(v : Int)) else none
    else if v < Nat.pow 2 64 then some v else none
  | _, _ => none

/-- A number as it is approximated: its first digits, as far as they fit 64
bits, and a power of ten. -/
structure Scaled where
  significand : Nat := 0
  exponent : Int := 0
deriving DecidableEq, Repr

namespace Scaled

def fits (s : Scaled) (d : Nat) : Bool := s.significand * 10 + d < Nat.pow 2 64

/-- Takes digits in front of the point; after the first one that does not fit, digits only count. -/
def takeWhole (s : Scaled) : List Nat → Scaled
  | [] => s
  | d :: ds =>
    if s.fits d then takeWhole { s with significand := s.significand * 10 + d } ds
    else { s with exponent := s.exponent + (ds.length + 1) }

/-- Takes digits behind the point, up to the first one that does not fit. -/
def takeFraction (s : Scaled) : List Nat → Scaled
  | [] => s
  | d :: ds =>
    if s.fits d then takeFraction ⟨s.significand * 10 + d, s.exponent - 1⟩ ds
    else s

end Scaled

/-- The approximation of a number, without its sign. -/
def Number.scaled (n : Number) : Scaled :=
  let s := (({} : Scaled).takeWhole n.whole).takeFraction (n.fraction.getD [])
  match n.exponent with
  | none => s
  | some (negative, ds) =>
    let written : Int := digitsValue ds
    { s with exponent := if negative then s.exponent - written else s.exponent + written }

/-- The number of double precision nearest to a number that is not too large;
of two, the even one. -/
def nearestDouble (n : Nat) : Nat :=
  let unit := Nat.pow 2 (n.log2 + 1 - 53)
  let low := n / unit
  let rest := n % unit
  if 2 * rest > unit || (2 * rest = unit && low % 2 = 1) then (low + 1) * unit else low * unit

/-- The least number that rounds to no finite number of double precision. -/
def doubleLimit : Nat := Nat.pow 2 1024 - Nat.pow 2 970

/-- The largest power of ten of double precision. -/
def largestPower : Nat := 308

/-- Whether a number is too large for double precision. The significand and the power of ten are
rounded before they are multiplied. -/
def Number.overflows (n : Number) : Bool :=
  let s := n.scaled
  if s.significand = 0 || s.exponent < 0 then false
  else if s.exponent > largestPower then true
  else nearestDouble s.significand * nearestDouble (Nat.pow 10 s.exponent.toNat) ≥ doubleLimit

/-! ### Tokens -/

/-- A token; a broken one is the last of its text. -/
inductive Token where
  | openArray
  | closeArray
  | openObject
  | closeObject
  | comma
  | colon
  | null
  | bool (b : Bool)
  | number (n : Number)
  | string (content : List Piece)
  | brokenString (damage : Damage)
  | broken (damage : Damage)
deriving DecidableEq, Repr

inductive Escape where
  | none
  | backslash
  | hex (digits : Bytes)
deriving DecidableEq, Repr

inductive NumberPlace where
  | sign
  | zero
  | whole
  | point
  | fraction
  | exponent
  | exponentSign
  | exponentDigits
deriving DecidableEq, Repr

/-- What the machine is in the middle of; strings and the digits of numbers are held in reverse. -/
inductive Mode where
  | between
  | word (rest : Bytes) (token : Token)
  | string (content : List Piece) (escape : Escape)
  | number (place : NumberPlace) (number : Number)
  | stopped

/-- The machine: the tokens so far in reverse, and what it is in the middle of. -/
structure Scan where
  tokens : List Token
  mode : Mode

namespace Scan

def start : Scan := ⟨[], .between⟩

def emit (s : Scan) (t : Token) : Scan := ⟨t :: s.tokens, .between⟩

def stop (s : Scan) (t : Token) : Scan := ⟨t :: s.tokens, .stopped⟩

/-- The machine after a byte that no JSON text has at this place. -/
def refuse (s : Scan) : Scan := s.stop (.broken (.plain .malformed))

def isBlank (b : UInt8) : Bool := b = 0x20 || b = 0x09 || b = 0x0A || b = 0x0D

def digit? (b : UInt8) : Option Nat := if 48 ≤ b && b ≤ 57 then some (b.toNat - 48) else none

def hexDigit? (b : UInt8) : Option Nat :=
  if 48 ≤ b && b ≤ 57 then some (b.toNat - 48)
  else if 97 ≤ b && b ≤ 102 then some (b.toNat - 87)
  else if 65 ≤ b && b ≤ 70 then some (b.toNat - 55)
  else none

/-- The unit that four hexadecimal digits name. -/
def unit? : Bytes → Option Nat
  | [a, b, c, d] => do
    let w ← hexDigit? a
    let x ← hexDigit? b
    let y ← hexDigit? c
    let z ← hexDigit? d
    return w * 4096 + x * 256 + y * 16 + z
  | _ => none

/-- The first byte of a token, or a blank. -/
def stepBetween (s : Scan) (b : UInt8) : Scan :=
  if isBlank b then s
  else if b = 0x5B then s.emit .openArray
  else if b = 0x5D then s.emit .closeArray
  else if b = 0x7B then s.emit .openObject
  else if b = 0x7D then s.emit .closeObject
  else if b = 0x2C then s.emit .comma
  else if b = 0x3A then s.emit .colon
  else if b = 0x22 then ⟨s.tokens, .string [] .none⟩
  else if b = 0x2D then ⟨s.tokens, .number .sign ⟨true, [], none, none⟩⟩
  else if b = 0x6E then ⟨s.tokens, .word [0x75, 0x6C, 0x6C] .null⟩
  else if b = 0x74 then ⟨s.tokens, .word [0x72, 0x75, 0x65] (.bool true)⟩
  else if b = 0x66 then ⟨s.tokens, .word [0x61, 0x6C, 0x73, 0x65] (.bool false)⟩
  else
    match digit? b with
    | some 0 => ⟨s.tokens, .number .zero ⟨false, [0], none, none⟩⟩
    | some d => ⟨s.tokens, .number .whole ⟨false, [d], none, none⟩⟩
    | none => s.refuse

/-- The byte that a one-letter escape stands for. -/
def escaped? (b : UInt8) : Option UInt8 :=
  if b = 0x22 || b = 0x5C || b = 0x2F then some b
  else if b = 0x62 then some 0x08
  else if b = 0x66 then some 0x0C
  else if b = 0x6E then some 0x0A
  else if b = 0x72 then some 0x0D
  else if b = 0x74 then some 0x09
  else none

def stopString (s : Scan) (content : List Piece) (e : DecodeError) : Scan :=
  s.stop (.brokenString (stringDamage content.reverse e))

def stepString (s : Scan) (content : List Piece) (escape : Escape) (b : UInt8) : Scan :=
  match escape with
  | .none =>
    if b = 0x22 then s.emit (.string content.reverse)
    else if b = 0x5C then ⟨s.tokens, .string content .backslash⟩
    -- Control characters have to be escaped.
    else if b < 0x20 then s.stopString content .malformed
    else ⟨s.tokens, .string (.byte b :: content) .none⟩
  | .backslash =>
    if b = 0x75 then ⟨s.tokens, .string content (.hex [])⟩
    else
      match escaped? b with
      | some x => ⟨s.tokens, .string (.byte x :: content) .none⟩
      | none => s.stopString content .malformed
  | .hex ds =>
    if ds.length < 3 then ⟨s.tokens, .string content (.hex (ds ++ [b]))⟩
    else
      match unit? (ds ++ [b]) with
      | some u => ⟨s.tokens, .string (.unit u :: content) .none⟩
      | none => s.stopString content .malformed

/-- The number with its digits in the order of the text. -/
def ordered (n : Number) : Number :=
  ⟨n.negative, n.whole.reverse, n.fraction.map List.reverse,
    n.exponent.map fun e => (e.1, e.2.reverse)⟩

/-- A byte inside a number; one that cannot go on a complete number begins the next token. -/
def stepNumber (s : Scan) (place : NumberPlace) (n : Number) (b : UInt8) : Scan :=
  let next := (s.emit (.number (ordered n))).stepBetween b
  let mark := b = 0x65 || b = 0x45
  match place, digit? b with
  | .sign, some 0 => ⟨s.tokens, .number .zero ⟨n.negative, [0], none, none⟩⟩
  | .sign, some d => ⟨s.tokens, .number .whole ⟨n.negative, [d], none, none⟩⟩
  | .sign, none => s.refuse
  -- No digit behind a zero at the front.
  | .zero, some _ => s.refuse
  | .zero, none =>
    if b = 0x2E then ⟨s.tokens, .number .point n⟩
    else if mark then ⟨s.tokens, .number .exponent n⟩
    else next
  | .whole, some d => ⟨s.tokens, .number .whole ⟨n.negative, d :: n.whole, none, none⟩⟩
  | .whole, none =>
    if b = 0x2E then ⟨s.tokens, .number .point n⟩
    else if mark then ⟨s.tokens, .number .exponent n⟩
    else next
  | .point, some d => ⟨s.tokens, .number .fraction ⟨n.negative, n.whole, some [d], none⟩⟩
  | .point, none => s.refuse
  | .fraction, some d =>
    ⟨s.tokens, .number .fraction ⟨n.negative, n.whole, some (d :: n.fraction.getD []), none⟩⟩
  | .fraction, none => if mark then ⟨s.tokens, .number .exponent n⟩ else next
  | .exponent, some d =>
    ⟨s.tokens, .number .exponentDigits ⟨n.negative, n.whole, n.fraction, some (false, [d])⟩⟩
  | .exponent, none =>
    if b = 0x2B then
      ⟨s.tokens, .number .exponentSign ⟨n.negative, n.whole, n.fraction, some (false, [])⟩⟩
    else if b = 0x2D then
      ⟨s.tokens, .number .exponentSign ⟨n.negative, n.whole, n.fraction, some (true, [])⟩⟩
    else s.refuse
  | .exponentSign, some d =>
    let e := n.exponent.getD (false, [])
    ⟨s.tokens, .number .exponentDigits ⟨n.negative, n.whole, n.fraction, some (e.1, d :: e.2)⟩⟩
  | .exponentSign, none => s.refuse
  | .exponentDigits, some d =>
    let e := n.exponent.getD (false, [])
    ⟨s.tokens, .number .exponentDigits ⟨n.negative, n.whole, n.fraction, some (e.1, d :: e.2)⟩⟩
  | .exponentDigits, none => next

def step (s : Scan) (b : UInt8) : Scan :=
  match s.mode with
  | .between => s.stepBetween b
  | .word [] t => (s.emit t).stepBetween b
  | .word [x] t => if b = x then s.emit t else s.refuse
  | .word (x :: rest) t => if b = x then ⟨s.tokens, .word rest t⟩ else s.refuse
  | .string content escape => s.stepString content escape b
  | .number place n => s.stepNumber place n b
  | .stopped => s

/-- The end of the text. A number may end here only where it is complete; a reader that skips it
takes an incomplete one for malformed. -/
def finish (s : Scan) : List Token :=
  match s.mode with
  | .between => s.tokens
  -- A word that is complete has been emitted with its last byte.
  | .word _ _ => .broken (.plain .truncated) :: s.tokens
  | .string content _ => .brokenString (stringDamage content.reverse .truncated) :: s.tokens
  | .number place n =>
    match place with
    | .zero | .whole | .fraction | .exponentDigits => .number (ordered n) :: s.tokens
    | .sign | .point | .exponent | .exponentSign => .broken ⟨.truncated, .malformed⟩ :: s.tokens
  | .stopped => s.tokens

end Scan

def tokens (text : Bytes) : List Token := (text.foldl Scan.step Scan.start).finish.reverse

end NodeAdmission.Json
