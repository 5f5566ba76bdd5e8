import Std.Data.HashMap
import NodeAdmission.Text.Numeral
import NodeAdmission.Text.Pieces

/-!
# Sets of characters and tables

A property of characters is written as a text of ranges of code points in hexadecimal, `41-5A 61-7A
AA`, and a table as a text of rows: `41 61 62; 100/2 101 103` says what stands for the characters
from `41` on, and for every second one from `100` on.

Membership in a set is found by bisection, so the ranges have to ascend; a table becomes a hash map.
Both are made of their texts when the program starts. Proofs that need to know whether a character
is in a set evaluate the search for this character (`Ranges.search`).
-/

namespace NodeAdmission.Text

def words (cs : List Char) : List (List Char) :=
  let (word, found) := cs.foldr (fun c (word, found) =>
    if c ≤ ' ' then ([], if word.isEmpty then found else word :: found)
    else (c :: word, found)) ([], [])
  if word.isEmpty then found else word :: found

/-- A number in hexadecimal. -/
def codePoint (cs : List Char) : Nat :=
  cs.foldl (fun n c => n * 16 + (Numeral.hexDigit? c).getD 0) 0

/-! ### Sets -/

/-- A set of characters: ascending ranges of code points, each with its first and last one. -/
structure Ranges where
  bounds : Array (Nat × Nat)
deriving Inhabited

namespace Ranges

def readRange (word : List Char) : Nat × Nat :=
  match pieces '-' word with
  | [first, last] => (codePoint first, codePoint last)
  | _ => (codePoint word, codePoint word)

def read (s : String) : Ranges := ⟨((words s.toList).map readRange).toArray⟩

/-- Whether one of the ranges with an index from `low` up to `high` holds the code point. -/
def search (bounds : Array (Nat × Nat)) (n low high : Nat) : Bool :=
  if low < high then
    match bounds[(low + high) / 2]? with
    | none => false
    | some (first, last) =>
      if n < first then search bounds n low ((low + high) / 2)
      else if last < n then search bounds n ((low + high) / 2 + 1) high
      else true
  else false
termination_by high - low
decreasing_by all_goals omega

def contains (r : Ranges) (c : Char) : Bool := search r.bounds c.toNat 0 r.bounds.size

end Ranges

/-! ### Tables -/

/-- Characters are hashed as their code points. -/
instance (priority := high) hashableChar : Hashable Char where
  hash c := hash c.toNat

abbrev CharTable := Std.HashMap Char (List Char)

namespace CharTable

/-- An entry: code points with dots between them. -/
def readEntry (word : List Char) : List Char :=
  (pieces '.' word).map fun w => Char.ofNat (codePoint w)

/-- A row: where it starts and how far its characters lie apart, and their entries. -/
def readRow (cs : List Char) : List (Char × List Char) :=
  match words cs with
  | [] => []
  | start :: entries =>
    -- The characters follow one another unless their distance is given.
    let (first, step) := match pieces '/' start with
      | [first, step] => (codePoint first, codePoint step)
      | _ => (codePoint start, 1)
    entries.mapIdx fun i entry => (Char.ofNat (first + i * step), readEntry entry)

def readEntries (s : String) : List (Char × List Char) := (pieces ';' s.toList).flatMap readRow

def read (s : String) : CharTable := .ofList (readEntries s)

end CharTable
end NodeAdmission.Text
