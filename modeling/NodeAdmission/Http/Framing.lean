import NodeAdmission.Http.Message
import NodeAdmission.Text.Blank
import NodeAdmission.Text.Pieces

/-!
# Answers on a connection

What an answer is, given the bytes that a connection brought before it was closed: a status
line, header lines up to an empty one, and a body whose end the headers tell. `read` gives no
answer if the head is not well-formed or contradicts itself, and an incomplete one if the body
does not come to its end.

* `head?` — the status line and the header lines, of which there may be a hundred.
* `Head.extent?` — how far the body reaches: a number of bytes, up to a chunk without any, or until
  the connection is closed. Chunks count before a number, and several numbers have to agree.
* `chunks?` — the bytes of a body in chunks, with the lines that may follow the last one.
* `readAfter` — the answer behind those that only announce it (status 100 and the like).

Where a function is given fuel, it uses up a byte at least for each unit of it, and is given more of
it than there are bytes.
-/

namespace NodeAdmission.Http.Framing

/-! ### Lines of the head -/

/-- A byte of an ASCII character. -/
def ascii (c : Char) : UInt8 := UInt8.ofNat c.toNat

def isNameByte (b : UInt8) : Bool :=
  let c := Char.ofNat b.toNat
  b < 0x80 && (c.isAlphanum || "!#$%&'*+-.^_\x60|~".toList.contains c)

def isValueByte (b : UInt8) : Bool := b = 9 || (0x20 ≤ b && b ≠ 0x7F)

def isBlankByte (b : UInt8) : Bool := b = 9 || b = 0x20

def lineEnd? : Bytes → Option Bytes
  | 13 :: 10 :: rest => some rest
  -- A line feed alone ends a line as well.
  | 10 :: rest => some rest
  | _ => none

structure Field where
  /-- The name in lower case. -/
  name : String
  value : Bytes
deriving DecidableEq, Repr

/-- Reads a header line. Blanks around the value do not count. -/
def field? (bs : Bytes) : Option (Field × Bytes) :=
  let name := bs.takeWhile isNameByte
  match name, bs.dropWhile isNameByte with
  | _ :: _, 58 :: rest =>
    let rest := rest.dropWhile isBlankByte
    let value := ((rest.takeWhile isValueByte).reverse.dropWhile isBlankByte).reverse
    (lineEnd? (rest.dropWhile isValueByte)).map fun rest =>
      (⟨String.ofList (name.map fun b => (Char.ofNat b.toNat).toLower), value⟩, rest)
  | _, _ => none

/-- Reads header lines, of which there are no more than a limit, up to the empty line. -/
def fields? : (limit : Nat) → Bytes → Option (List Field × Bytes)
  | limit, bs =>
    match lineEnd? bs, limit with
    | some rest, _ => some ([], rest)
    | none, 0 => none
    | none, limit + 1 => do
      let (f, rest) ← field? bs
      let (fs, rest) ← fields? limit rest
      return (f :: fs, rest)

def fieldLimit : Nat := 100

structure Head where
  /-- Whether the peer speaks version 1.0 of the protocol, and not 1.1. -/
  old : Bool
  status : Nat
  fields : List Field
deriving DecidableEq, Repr

def dropEmptyLines : Bytes → Bytes
  | 13 :: 10 :: rest => dropEmptyLines rest
  | 10 :: rest => dropEmptyLines rest
  | bs => bs

/-- What follows the reason for a status, which may be left out. -/
def afterReason? : Bytes → Option Bytes
  | 32 :: rest => lineEnd? (rest.dropWhile isValueByte)
  | bs => lineEnd? bs

def status? (digits : Bytes) : Option Nat :=
  let n := digits.foldl (fun n b => n * 10 + (b.toNat - 48)) 0
  if digits.length = 3 && digits.all (fun b => 48 ≤ b && b ≤ 57) && 100 ≤ n then some n else none

def head? (bs : Bytes) : Option (Head × Bytes) := do
  let bs := dropEmptyLines bs
  if bs.take 7 ≠ "HTTP/1.".toList.map ascii then none
  else
    let status ← status? ((bs.drop 9).take 3)
    let (fields, rest) ← fields? fieldLimit (← afterReason? (bs.drop 12))
    match (bs.drop 7).take 2 with
    | [48, 32] => some (⟨true, status, fields⟩, rest)
    | [49, 32] => some (⟨false, status, fields⟩, rest)
    | _ => none

/-! ### Where a body ends -/

inductive Extent where
  | sized (n : Nat)
  | chunked
  | untilClosed
deriving DecidableEq, Repr

namespace Head

def values (h : Head) (name : String) : List Bytes :=
  (h.fields.filter (·.name = name)).map (·.value)

end Head

/-- The items of a value that lists them between commas, if it is plain text. -/
def items? (value : Bytes) : Option (List (List Char)) :=
  if value.all fun b => isValueByte b && b < 0x80 then
    some ((Text.pieces ',' (value.map fun b => Char.ofNat b.toNat)).map Text.trimChars)
  else none

/-- Whether the last coding of a body is the one in chunks. -/
def endsChunked (value : Bytes) : Bool :=
  (((items? value).bind List.getLast?).map fun item => String.ofList (item.map Char.toLower)) =
    some "chunked"

def longestBody : Nat := Nat.pow 2 64 - 3

/-- A length in digits. -/
def length? (item : List Char) : Option Nat :=
  if item.isEmpty || !item.all Char.isDigit then none
  else
    let n := item.foldl (fun n c => n * 10 + (c.toNat - 48)) 0
    if n ≤ longestBody then some n else none

def agreedLength? (values : List Bytes) : Option Nat := do
  let lengths ← (← values.mapM items?).flatten.mapM length?
  match lengths with
  | n :: others => if others.all (· = n) then some n else none
  | [] => none

/-- How far the body behind a head reaches, unless the head contradicts itself. -/
def Head.extent? (h : Head) : Option Extent :=
  if h.status = 101 || h.status = 204 || h.status = 304 then some (.sized 0)
  else
    match (h.values "transfer-encoding").getLast?, h.values "content-length" with
    | some coding, _ =>
      -- Chunks came with version 1.1 of the protocol.
      if h.old then none else some (if endsChunked coding then .chunked else .untilClosed)
    | none, [] => some .untilClosed
    | none, lengths => (agreedLength? lengths).map .sized

/-! ### Chunks -/

def hexDigit? (b : UInt8) : Option Nat := Numeral.hexDigit? (Char.ofNat b.toNat)

/-- Reads the line with the size of a chunk. What follows a semicolon does not count. -/
def size? (bs : Bytes) : Option (Nat × Bytes) :=
  let isDigit (b : UInt8) : Bool := (hexDigit? b).isSome
  let digits := bs.takeWhile isDigit
  let n := digits.foldl (fun n b => n * 16 + (hexDigit? b).getD 0) 0
  if digits.isEmpty || Nat.pow 2 64 ≤ n then none
  else
    let rest := (bs.dropWhile isDigit).dropWhile isBlankByte
    -- What follows a semicolon is an extension.
    let rest := match rest with
      | 59 :: extension => extension.dropWhile fun b => b ≠ 13 && b ≠ 10
      | _ => rest
    match rest with
    | 13 :: 10 :: rest => some (n, rest)
    | _ => none

/-- The lines behind the last chunk up to the empty one, each with its end. -/
def trailer? : (fuel : Nat) → Bytes → Option (List Bytes)
  | 0, _ => none
  | _, 13 :: 10 :: _ => some []
  | _, 13 :: _ => none
  | fuel + 1, bs =>
    match bs.dropWhile (· ≠ 13) with
    | 13 :: 10 :: rest =>
      (trailer? fuel rest).map (((bs.takeWhile (· ≠ 13)) ++ [13, 10]) :: ·)
    | _ => none

/-- Whether a trailer follows, whose lines are header lines. -/
def hasTrailer (bs : Bytes) : Bool :=
  match trailer? bs.length bs with
  | none => false
  | some lines => (fields? (min lines.length fieldLimit) (lines.flatten ++ [13, 10])).isSome

/-- The bytes of chunks up to the one without any. -/
def chunks? : (fuel : Nat) → Bytes → Option Bytes
  | 0, _ => none
  | fuel + 1, bs =>
    match size? bs with
    | none => none
    | some (0, rest) => if hasTrailer rest then some [] else none
    | some (n, rest) =>
      match rest.drop n with
      | 13 :: 10 :: more => (chunks? fuel more).map (rest.take n ++ ·)
      | _ => none

/-! ### Answers -/

/-- The body of that extent, if it came to its end. -/
def body? (bs : Bytes) : Extent → Option Bytes
  | .sized n => if (bs.take n).length = n then some (bs.take n) else none
  | .chunked => chunks? (bs.length + 1) bs
  | .untilClosed => some bs

/-- Whether a status only announces another answer. -/
def isProvisional (status : Nat) : Bool := status < 200 && status ≠ 101

/-- Reads the answer behind those that only announce it. -/
def readAfter : (fuel : Nat) → Bytes → Reply
  | 0, _ => .failed .request
  | fuel + 1, bs =>
    match head? bs with
    | none => .failed .request
    | some (h, rest) =>
      if isProvisional h.status then readAfter fuel rest
      else
        match h.extent? with
        | none => .failed .request
        | some extent =>
          let body := body? rest extent
          .answered ⟨UInt16.ofNat h.status, body.getD [], body.isSome⟩

def read (bs : Bytes) : Reply := readAfter (bs.length + 1) bs

end NodeAdmission.Http.Framing
