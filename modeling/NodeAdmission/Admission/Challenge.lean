/-!
# Challenges

A challenge is a secret of 32 symbols, each one a letter or a digit. It is drawn at random for one
attempt; its text is what the agent of a node is asked to encrypt. That there are 32 symbols is a
field of the challenge, and a symbol is a number below 62, so a challenge cannot be empty or hold
anything that would have to be escaped.

Which challenges are drawn is left open. `Challenge.ofNumber` is one way to have different ones.
-/

namespace NodeAdmission.Admission

def challengeLength : Nat := 32

/-- A challenge: each symbol is an index into `Challenge.alphabet`. -/
structure Challenge where
  symbols : List (Fin 62)
  length_symbols : symbols.length = challengeLength
deriving DecidableEq

namespace Challenge

def alphabet : List Char := "ABCDEFGHIJKLMNOPQRSTUVWXYZabcdefghijklmnopqrstuvwxyz0123456789".toList

def symbol (i : Fin 62) : Char :=
  if i.val < 26 then Char.ofNat (65 + i.val)
  else if i.val < 52 then Char.ofNat (97 + (i.val - 26))
  else Char.ofNat (48 + (i.val - 52))

def chars (c : Challenge) : List Char := c.symbols.map symbol

def text (c : Challenge) : String := String.ofList c.chars

/-- The spelling of a challenge where it could be read by others. -/
def redacted (_ : Challenge) : String := "Challenge(<redacted>)"

/-- The last digits of `n` in base 62, the lowest first. -/
def digits : (count : Nat) → (n : Nat) → List (Fin 62)
  | 0, _ => []
  | count + 1, n => ⟨n % 62, Nat.mod_lt _ (by decide)⟩ :: digits count (n / 62)

/-- There are as many digits as were asked for, with zeros at the end. -/
@[simp] theorem length_digits (count n : Nat) : (digits count n).length = count := by
  induction count generalizing n with
  | zero => rfl
  | succ count ih => simp [digits, ih]

/-- The challenge with a number; numbers below 62 ^ 32 have different challenges. -/
def ofNumber (n : Nat) : Challenge := ⟨digits challengeLength n, length_digits _ _⟩

end Challenge
end NodeAdmission.Admission
