/-!
# Decimal numerals

Numbers in settings and options: an optional `+` and then decimal digits, with a value below a
bound. The digits are read from the left and the first problem decides, so an overflow that comes
before a stray character is reported as an overflow, and a minus sign is a stray character.

Zeros at the front do not count, so a number has many spellings; `Numeral.digits` writes the
shortest one. The readers for 16, 32 and 64 bits are one reader with different bounds.
-/

namespace NodeAdmission

inductive NumeralError where
  | empty
  | invalidDigit
  | tooLarge
deriving DecidableEq, Repr

def NumeralError.message : NumeralError → String
  | .empty => "cannot parse integer from empty string"
  | .invalidDigit => "invalid digit found in string"
  | .tooLarge => "number too large to fit in target type"

namespace Numeral

def digit? (c : Char) : Option Nat :=
  if '0' ≤ c ∧ c ≤ '9' then some (c.toNat - '0'.toNat) else none

def hexDigit? (c : Char) : Option Nat :=
  if '0' ≤ c ∧ c ≤ '9' then some (c.toNat - 48)
  else if 'a' ≤ c ∧ c ≤ 'f' then some (c.toNat - 87)
  else if 'A' ≤ c ∧ c ≤ 'F' then some (c.toNat - 55)
  else none

/-- Reads digits from the left, with `value` standing for the digits read so far. -/
def readDigits (bound : Nat) : (value : Nat) → List Char → Except NumeralError Nat
  | value, [] => .ok value
  | value, c :: cs =>
    match digit? c with
    | none => .error .invalidDigit
    | some d =>
      if value * 10 + d < bound then readDigits bound (value * 10 + d) cs else .error .tooLarge

/-- The digits of a numeral, after its optional sign. -/
def readUnsigned (bound : Nat) : List Char → Except NumeralError Nat
  | [] => .error .empty
  -- A sign alone is a digit that is none, not a text without digits.
  | ['+'] => .error .invalidDigit
  | '+' :: cs => readDigits bound 0 cs
  | cs => readDigits bound 0 cs

def readBelow (bound : Nat) (s : String) : Except NumeralError Nat := readUnsigned bound s.toList

def readUInt16 (s : String) : Except NumeralError UInt16 :=
  (readBelow UInt16.size s).map UInt16.ofNat

def readUInt32 (s : String) : Except NumeralError UInt32 :=
  (readBelow UInt32.size s).map UInt32.ofNat

def readUInt64 (s : String) : Except NumeralError UInt64 :=
  (readBelow UInt64.size s).map UInt64.ofNat

def digits (n : Nat) : String := String.ofList (Nat.toDigits 10 n)

def whole (i : Int) : String :=
  if i < 0 then "-" ++ digits i.natAbs else digits i.natAbs

end Numeral
end NodeAdmission
