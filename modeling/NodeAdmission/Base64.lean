import NodeAdmission.Text.Utf8

/-!
# Base64

The standard alphabet with canonical padding. `Base64.encode` writes it. `Base64.decode` accepts
exactly what `encode` writes and otherwise names the first offending place: it works on groups of
four bytes from the left, and only the last group may hold padding.

What is refused besides other symbols:

* a length that is no multiple of four, and padding that does not make it one;
* padding before the third place of the last group, or with symbols behind it;
* bits that the last symbol has left over and that are not zero.

The last of these makes the spelling unique: without it several spellings would stand for the same
bytes. A stray byte at the very end is reported before anything else (`strayLast?`).
-/

namespace NodeAdmission.Base64

/-! ### The alphabet -/

def alphabet : List Char :=
  "ABCDEFGHIJKLMNOPQRSTUVWXYZabcdefghijklmnopqrstuvwxyz0123456789+/".toList

def symbol (n : Nat) : UInt8 :=
  if n < 26 then UInt8.ofNat (65 + n)
  else if n < 52 then UInt8.ofNat (97 + (n - 26))
  else if n < 62 then UInt8.ofNat (48 + (n - 52))
  else if n = 62 then 43
  else 47

def value? (b : UInt8) : Option Nat :=
  if 65 ≤ b && b ≤ 90 then some (b.toNat - 65)
  else if 97 ≤ b && b ≤ 122 then some (b.toNat - 97 + 26)
  else if 48 ≤ b && b ≤ 57 then some (b.toNat - 48 + 52)
  else if b = 43 then some 62
  else if b = 47 then some 63
  else none

def pad : UInt8 := 61

/-! ### Writing -/

def encode : Bytes → Bytes
  | [] => []
  | [a] => [symbol (a.toNat / 4), symbol (a.toNat % 4 * 16), pad, pad]
  | [a, b] =>
    [symbol (a.toNat / 4), symbol (a.toNat % 4 * 16 + b.toNat / 16), symbol (b.toNat % 16 * 4), pad]
  | a :: b :: c :: rest =>
    symbol (a.toNat / 4) :: symbol (a.toNat % 4 * 16 + b.toNat / 16) ::
      symbol (b.toNat % 16 * 4 + c.toNat / 64) :: symbol (c.toNat % 64) :: encode rest

/-- Writes on behind a spelling that is held in reverse, so that long inputs
need no deep recursion. -/
def encodeOnto (done : Bytes) : Bytes → Bytes
  | a :: b :: c :: rest =>
    encodeOnto (symbol (c.toNat % 64) :: symbol (b.toNat % 16 * 4 + c.toNat / 64) ::
      symbol (a.toNat % 4 * 16 + b.toNat / 16) :: symbol (a.toNat / 4) :: done) rest
  | tail => (encode tail).reverse ++ done

theorem encodeOnto_eq (done bytes : Bytes) :
    encodeOnto done bytes = (encode bytes).reverse ++ done := by
  fun_induction encodeOnto done bytes with
  | case1 done a b c rest ih => simp [ih, encode]
  | case2 => rfl

/-! ### Reading -/

/-- Why a byte string is no base64 spelling. -/
inductive Error where
  | invalidSymbol (byte : UInt8) (offset : Nat)
  | invalidLength (length : Nat)
  | invalidPadding
  | invalidLastSymbol (byte : UInt8) (offset : Nat)
deriving DecidableEq, Repr

def Error.message : Error → String
  | .invalidSymbol b i => "Invalid symbol " ++ toString b.toNat ++ ", offset " ++ toString i ++ "."
  | .invalidLength n => "Invalid input length: " ++ toString n
  | .invalidPadding => "Invalid padding"
  | .invalidLastSymbol b i =>
    "Invalid last symbol " ++ toString b.toNat ++ ", offset " ++ toString i ++ "."

def valueAt (b : UInt8) (offset : Nat) : Except Error Nat :=
  match value? b with
  | some n => .ok n
  | none => .error (.invalidSymbol b offset)

/-- The three bytes that four values spell. -/
def bytesOfQuad (a b c d : Nat) : Bytes :=
  [UInt8.ofNat (a * 4 + b / 16), UInt8.ofNat (b % 16 * 16 + c / 4), UInt8.ofNat (c % 4 * 64 + d)]

def decodeQuad (offset : Nat) (a b c d : UInt8) : Except Error Bytes := do
  let w ← valueAt a offset
  let x ← valueAt b (offset + 1)
  let y ← valueAt c (offset + 2)
  let z ← valueAt d (offset + 3)
  return bytesOfQuad w x y z

/-- The symbols of the last group before its padding: their values, and whether only
padding follows. `index` counts within the group; the first padding byte may stand at
index 2 at the earliest. -/
def lastValues (start : Nat) : (index : Nat) → Bytes → Except Error (List Nat × Nat)
  | _, [] => .ok ([], 0)
  | index, b :: rest =>
    if b = pad then
      if index < 2 then .error (.invalidSymbol pad (start + index))
      else if rest.all (· = pad) then .ok ([], rest.length + 1)
      else .error (.invalidSymbol pad (start + index))
    else do
      let n ← valueAt b (start + index)
      let (ns, pads) ← lastValues start (index + 1) rest
      return (n :: ns, pads)

/-- Reads the last group, of one to four bytes. Its symbols and padding make a full group, and the
bits that its last symbol has left over are zero. -/
def decodeLast (start : Nat) (group : Bytes) : Except Error Bytes := do
  let (ns, pads) ← lastValues start 0 group
  if ns.length < 2 then .error (.invalidLength (start + ns.length))
  else if (ns.length + pads) % 4 ≠ 0 then .error .invalidPadding
  else
    match ns with
    | [a, b] =>
      if b % 16 = 0 then .ok [UInt8.ofNat (a * 4 + b / 16)]
      else .error (.invalidLastSymbol (symbol b) (start + 1))
    | [a, b, c] =>
      if c % 4 = 0 then .ok [UInt8.ofNat (a * 4 + b / 16), UInt8.ofNat (b % 16 * 16 + c / 4)]
      else .error (.invalidLastSymbol (symbol c) (start + 2))
    | [a, b, c, d] => .ok (bytesOfQuad a b c d)
    | _ => .error (.invalidLength (start + ns.length))

/-- Reads on from `offset`, with the bytes read so far in reverse. -/
def decodeFrom (done : Bytes) (offset : Nat) : Bytes → Except Error Bytes
  | [] => .ok done.reverse
  -- Something follows these four, so they are not the last group.
  | a :: b :: c :: d :: e :: rest =>
    match decodeQuad offset a b c d with
    | .error err => .error err
    | .ok bytes => decodeFrom (bytes.reverse ++ done) (offset + 4) (e :: rest)
  | group =>
    match decodeLast offset group with
    | .error err => .error err
    | .ok bytes => .ok (done.reverse ++ bytes)

/-- A single byte beyond the full groups that is neither symbol nor padding is reported
before anything else. -/
def strayLast? (text : Bytes) : Option Error :=
  if text.length % 4 = 1 then
    match text.getLast? with
    | some b =>
      if b ≠ pad && (value? b).isNone then some (.invalidSymbol b (text.length - 1)) else none
    | none => none
  else none

def decode (text : Bytes) : Except Error Bytes :=
  match strayLast? text with
  | some err => .error err
  | none => decodeFrom [] 0 text

end NodeAdmission.Base64
