import NodeAdmission.Text.Numeral
import NodeAdmission.Text.Utf8

/-!
# Writing JSON

`Json` holds what this library writes: request bodies, error reports and the results of the command
line. `Json.compact` writes it without blanks, `Json.pretty` over several lines. Strings escape the
quote, the backslash and the characters below U+0020, and nothing else; those that have an escape of
one letter are written with it, the others with the four digits of their code point.

Values are written as lists of characters, and made a text at the end. Arrays and objects are
written by functions of their own, in step with the values, so that all of them are structural.
-/

namespace NodeAdmission

/-- A JSON value to be written; the members of an object keep their order. -/
inductive Json where
  | null
  | bool (b : Bool)
  | int (i : Int)
  | str (s : String)
  | arr (items : List Json)
  | obj (members : List (String × Json))

namespace Json

/-! ### Strings -/

def hexDigit (n : Nat) : Char :=
  if n < 10 then Char.ofNat (48 + n) else Char.ofNat (87 + n)

def escapeChar (c : Char) : List Char :=
  if c = '"' then ['\\', '"']
  else if c = '\\' then ['\\', '\\']
  else if c.toNat = 0x08 then ['\\', 'b']
  else if c.toNat = 0x0C then ['\\', 'f']
  else if c = '\n' then ['\\', 'n']
  else if c = '\r' then ['\\', 'r']
  else if c = '\t' then ['\\', 't']
  else if c.toNat < 0x20 then
    ['\\', 'u', '0', '0', hexDigit (c.toNat / 16), hexDigit (c.toNat % 16)]
  else [c]

def quote (s : String) : List Char := '"' :: (s.toList.flatMap escapeChar ++ ['"'])

def joinChars (separator : List Char) : List (List Char) → List Char
  | [] => []
  | [x] => x
  | x :: y :: rest => x ++ separator ++ joinChars separator (y :: rest)

/-! ### Values -/

mutual

def compactChars : Json → List Char
  | .null => ['n', 'u', 'l', 'l']
  | .bool true => ['t', 'r', 'u', 'e']
  | .bool false => ['f', 'a', 'l', 's', 'e']
  | .int i => (Numeral.whole i).toList
  | .str s => quote s
  | .arr items => '[' :: (joinChars [','] (compactItems items) ++ [']'])
  | .obj members => '\x7b' :: (joinChars [','] (compactMembers members) ++ ['\x7d'])

def compactItems : List Json → List (List Char)
  | [] => []
  | j :: js => compactChars j :: compactItems js

def compactMembers : List (String × Json) → List (List Char)
  | [] => []
  | (k, j) :: ms => (quote k ++ ':' :: compactChars j) :: compactMembers ms

end

def compact (j : Json) : String := String.ofList (compactChars j)

def bytes (j : Json) : Bytes := Utf8.encodeChars (compactChars j)

/-! ### Several lines -/

/-- A new line, indented by `depth` steps of two blanks. -/
def newLine (depth : Nat) : List Char := '\n' :: List.replicate (2 * depth) ' '

/-- A bracketed list with one piece a line; an empty one stays on its line. -/
def block (depth : Nat) (opening closing : Char) : List (List Char) → List Char
  | [] => [opening, closing]
  | pieces =>
    opening :: (newLine (depth + 1) ++ joinChars (',' :: newLine (depth + 1)) pieces ++
      newLine depth ++ [closing])

mutual

/-- The characters of a value over several lines, the first of them at `depth`. -/
def prettyChars (depth : Nat) : Json → List Char
  | .arr items => block depth '[' ']' (prettyItems (depth + 1) items)
  | .obj members => block depth '\x7b' '\x7d' (prettyMembers (depth + 1) members)
  | .null => compactChars .null
  | .bool b => compactChars (.bool b)
  | .int i => compactChars (.int i)
  | .str s => compactChars (.str s)

def prettyItems (depth : Nat) : List Json → List (List Char)
  | [] => []
  | j :: js => prettyChars depth j :: prettyItems depth js

def prettyMembers (depth : Nat) : List (String × Json) → List (List Char)
  | [] => []
  | (k, j) :: ms => (quote k ++ ':' :: ' ' :: prettyChars depth j) :: prettyMembers depth ms

end

/-- The text of a value over several lines, indented by two blanks a level. -/
def pretty (j : Json) : String := String.ofList (prettyChars 0 j)

end Json
end NodeAdmission
