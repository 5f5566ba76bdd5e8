import NodeAdmission.Text.Composed.Table

/-!
# The composed form of a text

Texts that differ only in how accents are written count as the same: `é` can be one character, or an
`e` and an accent behind it. To write them alike, three steps are taken:

1. every character is taken apart (`takeApart`);
2. the marks behind a character are put in order (`ordered`), where marks of the same place keep
   the order that they have;
3. each mark is joined with its character where there is one for both (`joinAll`), unless another
   mark of its place stands in between.

Syllables of the Korean alphabet are taken apart and joined by arithmetic; everything else is in the
tables of `NodeAdmission.Text.Composed.Table`.
-/

namespace NodeAdmission.Text.Composed

/-! ### Taking apart -/

/-- What a character is made of, one step down. -/
def parts : CharTable := .ofList (pairs ++ replaced)

def splitSyllable (n : Nat) : List Char :=
  let vowel := [Char.ofNat (0x1100 + n / 588), Char.ofNat (0x1161 + n % 588 / 28)]
  if n % 28 = 0 then vowel else vowel ++ [Char.ofNat (0x11A7 + n % 28)]

def split (c : Char) : List Char :=
  if 0xAC00 ≤ c.toNat ∧ c.toNat ≤ 0xD7A3 then splitSyllable (c.toNat - 0xAC00)
  else (parts[c]?).getD [c]

/-- A text taken apart; no character has more than three layers. -/
def takeApart (cs : List Char) : List Char := ((cs.flatMap split).flatMap split).flatMap split

/-! ### Order -/

/-- The place of a mark among the marks behind a character; 0 for a character
that is no such mark. -/
def place (c : Char) : Nat :=
  if c.toNat < 0x300 then 0 else ((placed.find? fun row => row.2.contains c).map Prod.fst).getD 0

/-- Puts a character in front of an ordered text: behind the marks of lower places. -/
def insertMark (c : Char) : List Char → List Char
  | [] => [c]
  | d :: ds => if 0 < place d ∧ place d < place c then d :: insertMark c ds else c :: d :: ds

/-- The marks behind each character by ascending places. -/
def ordered (cs : List Char) : List Char := cs.foldr insertMark []

/-! ### Joining -/

def joined : Std.HashMap (Char × Char) Char :=
  .ofList (pairs.filterMap fun
    | (c, [a, b]) => some ((a, b), c)
    | _ => none)

def join? (a b : Char) : Option Char :=
  let m := a.toNat
  let n := b.toNat
  -- A consonant and a vowel; below, a syllable without a final consonant and one.
  if 0x1100 ≤ m ∧ m ≤ 0x1112 ∧ 0x1161 ≤ n ∧ n ≤ 0x1175 then
    some (Char.ofNat (0xAC00 + ((m - 0x1100) * 21 + (n - 0x1161)) * 28))
  else if 0xAC00 ≤ m ∧ m ≤ 0xD7A3 ∧ (m - 0xAC00) % 28 = 0 ∧ 0x11A8 ≤ n ∧ n ≤ 0x11C2 then
    some (Char.ofNat (m + (n - 0x11A7)))
  else joined[(a, b)]?

/-- Whether the marks between a character and a later one keep the two apart;
the last comes first. -/
def keepsApart (marks : List Char) (c : Char) : Bool :=
  match marks with
  | [] => false
  | d :: _ => place c ≤ place d

/-- Joins a character with what follows it; `marks` are those in between that did not
join, the last first. -/
def joinFrom (base : Char) (marks : List Char) : List Char → List Char
  | [] => base :: marks.reverse
  | c :: cs =>
    match if keepsApart marks c then none else join? base c with
    | some base => joinFrom base marks cs
    | none =>
      if place c = 0 then base :: marks.reverse ++ joinFrom c [] cs
      else joinFrom base (c :: marks) cs

/-- Joins the characters of an ordered text; marks at its front have nothing to join. -/
def joinAll : List Char → List Char
  | [] => []
  | c :: cs => if place c = 0 then joinFrom c [] cs else c :: joinAll cs

end NodeAdmission.Text.Composed

namespace NodeAdmission.Text

def composed (cs : List Char) : List Char :=
  -- Nothing below this code point is changed or joined.
  if cs.all fun c => c.toNat < 0xC0 then cs
  else Composed.joinAll (Composed.ordered (Composed.takeApart cs))

end NodeAdmission.Text
