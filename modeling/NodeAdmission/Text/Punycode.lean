/-!
# Punycode

A way to write any text in ASCII. First come the characters that are ASCII already, and behind a
hyphen the others in ascending order, each as a number that tells how far it lies behind the one
before, in code points and places. A number is written in digits of base 36, least significant
first, of which the last is below a threshold that the ones before reach; the thresholds depend on a
bias that follows the sizes of the numbers.

* `number` and `readNumber` — one number. The reader is given what was read before, since the sum
  must stay below `limit`.
* `adapt` — the bias after a number.
* `encode` and `decode?` — a whole text. Reading stops at the first number that leads
  beyond the last character.
-/

namespace NodeAdmission.Text.Punycode

/-! ### Numbers -/

/-- A digit: 26 letters, then the decimal digits. -/
def digit (d : Nat) : Char := if d < 26 then Char.ofNat (97 + d) else Char.ofNat (22 + d)

/-- The threshold of a digit; `weight` is 36 for the first digit and grows by
36 from digit to digit. -/
def threshold (bias weight : Nat) : Nat := min 26 (max 1 (weight - bias))

/-- The digits of a number. -/
def number (bias weight n : Nat) : List Char :=
  let t := threshold bias weight
  if n < t then [digit n]
  else digit (t + (n - t) % (36 - t)) :: number bias (weight + 36) ((n - t) / (36 - t))
termination_by n
decreasing_by
  have positive : 1 ≤ threshold bias weight := by unfold threshold; omega
  have := Nat.div_le_self (n - threshold bias weight) (36 - threshold bias weight)
  omega

/-- How often a size is divided by 35 until it is at most 455, times 36, and what is left of it. -/
def scale (size offset : Nat) : Nat × Nat :=
  if 455 < size then scale (size / 35) (offset + 36) else (size, offset)
termination_by size
decreasing_by omega

/-- The bias after a number; `placed` counts the characters that are written. -/
def adapt (size placed : Nat) (first : Bool) : Nat :=
  let size := if first then size / 700 else size / 2
  let (size, offset) := scale (size + size / placed) 0
  offset + 36 * size / (size + 38)

/-! ### Texts -/

/-- How far the writing of a text has come. -/
structure Progress where
  out : List Char := []
  /-- The distance from the character that was written last. -/
  distance : Nat := 0
  bias : Nat := 72
  placed : Nat
  first : Bool := true

/-- Goes on to one character of the text, and writes it if it has the code point. -/
def visit (code : Nat) (p : Progress) (c : Char) : Progress :=
  -- Characters that are written already count for the distance.
  if c.toNat < code then { p with distance := p.distance + 1 }
  else if c.toNat = code then
    { out := p.out ++ number p.bias 36 p.distance
      distance := 0
      bias := adapt p.distance (p.placed + 1) p.first
      placed := p.placed + 1
      first := false }
  else p

/-- Writes the characters with the given code points, which ascend from `next` on. -/
def writeCodes (text : List Char) : (next : Nat) → List Nat → Progress → Progress
  | _, [], p => p
  | next, code :: codes, p =>
    let p := { p with distance := p.distance + (code - next) * (p.placed + 1) }
    let p := text.foldl (visit code) p
    writeCodes text (code + 1) codes { p with distance := p.distance + 1 }

def isAscii (c : Char) : Bool := c.toNat < 128

/-- The code points outside ASCII, in ascending order and once each. -/
def codes (text : List Char) : List Nat :=
  ((text.filter fun c => !isAscii c).map Char.toNat).mergeSort.eraseDups

def encode (text : List Char) : List Char :=
  let plain := text.filter isAscii
  plain ++ (if plain.isEmpty then [] else ['-']) ++
    (writeCodes text 128 (codes text) { placed := plain.length }).out

/-! ### Reading -/

def digitValue? (c : Char) : Option Nat :=
  if 'a' ≤ c ∧ c ≤ 'z' then some (c.toNat - 97)
  else if '0' ≤ c ∧ c ≤ '9' then some (c.toNat - 22)
  else none

/-- The bound below which numbers stay. -/
def limit : Nat := Nat.pow 2 32

/-- Reads a number and adds it to `sum`; `weight` is that of the next digit and `offset` goes with
its threshold. Gives the sum and what follows the number. -/
def readNumber (bias offset weight sum : Nat) : List Char → Option (Nat × List Char)
  | [] => none
  | c :: cs =>
    match digitValue? c with
    | none => none
    | some d =>
      let t := threshold bias offset
      if limit ≤ sum + d * weight then none
      else if d < t then some (sum + d * weight, cs)
      else if limit ≤ weight * (36 - t) then none
      else readNumber bias (offset + 36) (weight * (36 - t)) (sum + d * weight) cs

/-- A number has a digit at least, so reading on comes to an end. -/
theorem length_of_readNumber {bias offset weight sum n : Nat} {cs rest : List Char}
    (h : readNumber bias offset weight sum cs = some (n, rest)) : rest.length < cs.length := by
  induction cs generalizing offset weight sum with
  | nil => simp [readNumber] at h
  | cons c cs ih =>
    rw [readNumber] at h
    split at h
    · simp at h
    · simp only at h
      split at h
      · simp at h
      · split at h
        · simp only [Option.some.injEq, Prod.mk.injEq] at h
          simp [← h.2]
        · split at h
          · simp at h
          · have := ih h
            simp only [List.length_cons]
            omega

/-- Puts the characters that the digits stand for into a text. The last one written had the code
point `code` and the next place behind it is `index`. -/
def insertAll (code index bias : Nat) (text digits : List Char) : Option (List Char) :=
  if digits.isEmpty then some text
  else
    match h : readNumber bias 36 1 index digits with
    | none => none
    | some (n, rest) =>
      -- A round through the places of the text is one code point.
      let code := code + n / (text.length + 1)
      let place := n % (text.length + 1)
      if code.isValidChar then
        insertAll code (place + 1) (adapt (n - index) (text.length + 1) (index = 0))
          (text.insertIdx place (Char.ofNat code)) rest
      else none
termination_by digits.length
decreasing_by exact length_of_readNumber h

/-- The text that is written so. The last hyphen ends the ASCII characters, unless it is the first
character. -/
def decode? (cs : List Char) : Option (List Char) :=
  match cs.reverse.span (· ≠ '-') with
  | (digits, '-' :: plain) =>
    if plain.isEmpty then insertAll 128 0 72 [] cs
    else insertAll 128 0 72 plain.reverse digits.reverse
  | _ => insertAll 128 0 72 [] cs

end NodeAdmission.Text.Punycode
