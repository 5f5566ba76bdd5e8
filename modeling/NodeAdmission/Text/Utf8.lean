/-!
# UTF-8

Text travels as bytes: request bodies, answers, files and the output of child processes. Writing is
`Utf8.encode`. Reading comes in two forms that share one scanner, `Utf8.next`:

* `Utf8.decode` refuses ill-formed input and says where and how it is ill-formed;
* `Utf8.decodeLossy` puts U+FFFD in the place of each maximal ill-formed part.

A maximal ill-formed part is as long as it could have begun a character, and a byte at least: three
bytes of a form of four that are not continued are one part, a byte that no character begins with is
one by itself. A byte order mark is an ordinary character to both.
-/

namespace NodeAdmission

abbrev Bytes := List UInt8

namespace Utf8

/-! ### Writing -/

def encodeChar (c : Char) : Bytes :=
  let n := c.toNat
  if n < 0x80 then [UInt8.ofNat n]
  else if n < 0x800 then [UInt8.ofNat (0xC0 + n / 64), UInt8.ofNat (0x80 + n % 64)]
  else if n < 0x10000 then
    [UInt8.ofNat (0xE0 + n / 4096), UInt8.ofNat (0x80 + n / 64 % 64), UInt8.ofNat (0x80 + n % 64)]
  else
    [UInt8.ofNat (0xF0 + n / 262144), UInt8.ofNat (0x80 + n / 4096 % 64),
      UInt8.ofNat (0x80 + n / 64 % 64), UInt8.ofNat (0x80 + n % 64)]

def encodeChars (cs : List Char) : Bytes := cs.flatMap encodeChar

def encode (s : String) : Bytes := encodeChars s.toList

@[simp] theorem encodeChars_nil : encodeChars [] = [] := rfl

@[simp] theorem encodeChars_cons (c : Char) (cs : List Char) :
    encodeChars (c :: cs) = encodeChar c ++ encodeChars cs := by
  simp [encodeChars]

@[simp] theorem encodeChars_append (cs ds : List Char) :
    encodeChars (cs ++ ds) = encodeChars cs ++ encodeChars ds := by
  simp [encodeChars]

/-! ### One character -/

/-- A byte that continues a character. -/
def isContinuation (b : UInt8) : Bool := 0x80 ≤ b && b ≤ 0xBF

/-- Whether `second` may follow `lead`: a three or four byte form must be the shortest one, must not
name a surrogate and must not go beyond the last character. -/
def allowsSecond (lead second : UInt8) : Bool :=
  if lead = 0xE0 then 0xA0 ≤ second && second ≤ 0xBF
  else if lead = 0xED then 0x80 ≤ second && second ≤ 0x9F
  else if lead = 0xF0 then 0x90 ≤ second && second ≤ 0xBF
  else if lead = 0xF4 then 0x80 ≤ second && second ≤ 0x8F
  else isContinuation second

/-- What stands at the front of a non-empty byte string. -/
inductive Front where
  /-- A character and what follows it. -/
  | char (c : Char) (rest : Bytes)
  /-- A maximal ill-formed part of `width` bytes and what follows it. -/
  | illFormed (width : Nat) (rest : Bytes)
  /-- The beginning of a character that the input ends in. -/
  | cutShort

/-- The value that a continuation byte adds. -/
def payload (b : UInt8) : Nat := b.toNat - 0x80

/-- Reads one character, or finds out what is wrong with it. -/
def next (lead : UInt8) (rest : Bytes) : Front :=
  if lead < 0x80 then .char (Char.ofNat lead.toNat) rest
  -- A continuation without a beginning, or a form that is not the shortest.
  else if lead < 0xC2 then .illFormed 1 rest
  -- A form of two bytes.
  else if lead < 0xE0 then
    match rest with
    | [] => .cutShort
    | b :: r =>
      if isContinuation b then .char (Char.ofNat ((lead.toNat - 0xC0) * 64 + payload b)) r
      else .illFormed 1 rest
  -- A form of three bytes.
  else if lead < 0xF0 then
    match rest with
    | [] => .cutShort
    | b :: r =>
      if allowsSecond lead b then
        match r with
        | [] => .cutShort
        | c :: r' =>
          if isContinuation c then
            .char (Char.ofNat ((lead.toNat - 0xE0) * 4096 + payload b * 64 + payload c)) r'
          else .illFormed 2 r
      else .illFormed 1 rest
  -- A form of four bytes; what is above would be beyond the last character.
  else if lead < 0xF5 then
    match rest with
    | [] => .cutShort
    | b :: r =>
      if allowsSecond lead b then
        match r with
        | [] => .cutShort
        | c :: r' =>
          if isContinuation c then
            match r' with
            | [] => .cutShort
            | d :: r'' =>
              if isContinuation d then
                .char (Char.ofNat
                  ((lead.toNat - 0xF0) * 262144 + payload b * 4096 + payload c * 64 +
                    payload d)) r''
              else .illFormed 3 r'
          else .illFormed 2 r
      else .illFormed 1 rest
  else .illFormed 1 rest

def Front.rest : Front → Bytes
  | .char _ rest => rest
  | .illFormed _ rest => rest
  | .cutShort => []

/-- Reading a character uses up its first byte at least. -/
theorem length_rest_next_le (lead : UInt8) (rest : Bytes) :
    (next lead rest).rest.length ≤ rest.length := by
  unfold next
  grind [Front.rest]

theorem length_lt_of_next {lead : UInt8} {rest r : Bytes} (h : (next lead rest).rest = r) :
    r.length < (lead :: rest).length := by
  have := length_rest_next_le lead rest
  rw [h] at this
  simp only [List.length_cons]
  omega

/-! ### Reading strictly -/

/-- Why a byte string is not text: it is well formed up to `validUpTo`, and there follows
a part of `width` bytes that no character begins with, or (without a width) a character
that the input ends in. -/
structure Error where
  validUpTo : Nat
  width : Option Nat
deriving DecidableEq, Repr

def Error.message (e : Error) : String :=
  match e.width with
  | some n =>
    "invalid utf-8 sequence of " ++ toString n ++ " bytes from index " ++ toString e.validUpTo
  | none => "incomplete utf-8 byte sequence from index " ++ toString e.validUpTo

/-- Reads on from `offset`, with the characters read so far in reverse. -/
def decodeFrom (done : List Char) (offset : Nat) : Bytes → Except Error (List Char)
  | [] => .ok done.reverse
  | b :: rest =>
    match h : next b rest with
    | .char c r =>
      have : r.length < (b :: rest).length := length_lt_of_next (by rw [h]; rfl)
      decodeFrom (c :: done) (offset + (encodeChar c).length) r
    | .illFormed n _ => .error ⟨offset, some n⟩
    | .cutShort => .error ⟨offset, none⟩
termination_by bytes => bytes.length
decreasing_by all_goals assumption

def decodeChars (bytes : Bytes) : Except Error (List Char) := decodeFrom [] 0 bytes

def decode (bytes : Bytes) : Except Error String := (decodeChars bytes).map String.ofList

/-! ### Reading leniently -/

/-- The character that stands for an ill-formed part. -/
def replacement : Char := Char.ofNat 0xFFFD

/-- Reads on, with the characters read so far in reverse. -/
def lossyFrom (done : List Char) : Bytes → List Char
  | [] => done.reverse
  | b :: rest =>
    match h : next b rest with
    | .char c r =>
      have : r.length < (b :: rest).length := length_lt_of_next (by rw [h]; rfl)
      lossyFrom (c :: done) r
    | .illFormed _ r =>
      have : r.length < (b :: rest).length := length_lt_of_next (by rw [h]; rfl)
      lossyFrom (replacement :: done) r
    | .cutShort => (replacement :: done).reverse
termination_by bytes => bytes.length
decreasing_by all_goals assumption

/-- The text of any byte string, each maximal ill-formed part replaced by U+FFFD. -/
def decodeLossy (bytes : Bytes) : String := String.ofList (lossyFrom [] bytes)

end Utf8
end NodeAdmission
