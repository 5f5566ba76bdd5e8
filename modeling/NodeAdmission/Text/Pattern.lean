import NodeAdmission.Text.Alphanumeric
import NodeAdmission.Text.Blank
import NodeAdmission.Text.Numeral

/-!
# Regular expressions

Whether a text is a regular expression that a finite automaton over UTF-8 can be built for. It is
read from the left: groups have to be closed, a repetition has to have something to repeat, a class
has to end, and a backslash stands before punctuation or a letter that means something.

What is read by the rules of Unicode must do without tables of its properties: there are no classes
of its letters or digits, no disregard of case and no boundaries of words. What is read by the rules
of ASCII has all these, but must not match half a character, so it has no dot and no complement of a
class. Flags change the rules up to the end of their group.

* `Mode` — the rules, and what they make of blanks and comments.
* `escape?` — what stands behind a backslash.
* `class?` — a class in brackets, which may hold others.
* `depth?` — the whole. Nothing is kept of a pattern but how deep its parts lie within one another,
  for which there is a limit (`depthLimit`).
-/

namespace NodeAdmission.Text.Pattern

/-! ### Modes -/

/-- The rules that a part of a pattern is read by. -/
structure Mode where
  /-- By the rules of Unicode, and not of ASCII. -/
  unicode : Bool := true
  /-- Without regard to case. -/
  caseless : Bool := false
  /-- Blanks and comments do not count. -/
  verbose : Bool := false
deriving DecidableEq, Repr

namespace Mode

/-- Whether literals can be looked up: folding the case of a character takes a table. -/
def hasLiterals (m : Mode) : Bool := !m.unicode || !m.caseless

/-- What follows blanks and comments, the first of which may have begun. -/
def dropComments : (inComment : Bool) → List Char → List Char
  | _, [] => []
  | true, c :: cs => dropComments (c ≠ '\n') cs
  | false, c :: cs =>
    if isBlank c then dropComments false cs else if c = '#' then dropComments true cs else c :: cs

/-- What follows in a text, without that which does not count. -/
def skip (m : Mode) (cs : List Char) : List Char := if m.verbose then dropComments false cs else cs

theorem length_dropComments_le (inComment : Bool) (cs : List Char) :
    (dropComments inComment cs).length ≤ cs.length := by
  fun_induction dropComments inComment cs with
  | case1 => exact Nat.le_refl _
  | case2 c cs ih | case3 c cs blank ih | case4 cs blank ih => exact Nat.le_succ_of_le ih
  | case5 => exact Nat.le_refl _

theorem length_skip_le (m : Mode) (cs : List Char) : (m.skip cs).length ≤ cs.length := by
  unfold skip
  split
  · exact length_dropComments_le false cs
  · exact Nat.le_refl _

/-- The first character that is no blank, or the first of a comment. -/
def glimpse : (inComment : Bool) → List Char → Option Char
  | _, [] => none
  | inComment, c :: cs =>
    if isBlank c then glimpse inComment cs
    else if c = '#' && !inComment then glimpse true cs
    else some c

/-- The character that decides what a hyphen in front of it means. -/
def ahead (m : Mode) (cs : List Char) : Option Char :=
  if m.verbose then (glimpse false cs).or cs.head? else cs.head?

/-- Switches a flag, if it is among those to be set or to be cleared. -/
def switch (flag : Char) (on off : List Char) (was : Bool) : Bool :=
  on.contains flag || (was && !off.contains flag)

/-- The rules after flags, those behind a hyphen being cleared. -/
def withFlags (m : Mode) (flags : List Char) : Mode :=
  let on := flags.takeWhile (· ≠ '-')
  let off := flags.dropWhile (· ≠ '-')
  { unicode := switch 'u' on off m.unicode
    caseless := switch 'i' on off m.caseless
    verbose := switch 'x' on off m.verbose }

end Mode

/-- Whether a text is a list of flags: each stands there once, and one follows the hyphen. -/
def isFlags (cs : List Char) : Bool :=
  decide cs.Nodup && cs.all ("imsUuRx-".toList.contains ·) && cs.getLast? ≠ some '-'

/-! ### Escapes -/

/-- What stands in a place of a pattern. -/
inductive Atom where
  /-- A character; `asByte` says that it was written as the two digits of a byte. -/
  | literal (c : Char) (asByte : Bool)
  /-- A class that a letter stands for. -/
  | named (negated : Bool)
  /-- The start or the end of the text. -/
  | edge
  /-- A place between a word and something else, or one that is none. -/
  | wordEdge
deriving DecidableEq, Repr

/-- Reads as many hexadecimal digits, onto the number that was read. -/
def hexDigits? (m : Mode) : (count : Nat) → (n : Nat) → List Char → Option (Nat × List Char)
  | 0, n, cs => some (n, cs)
  | count + 1, n, cs =>
    match m.skip cs with
    | [] => none
    | c :: rest => (Numeral.hexDigit? c).bind fun d => hexDigits? m count (n * 16 + d) rest

/-- Reads a character that is given by its code point in as many digits. -/
def codePoint? (m : Mode) (count : Nat) (cs : List Char) : Option (Atom × List Char) :=
  (hexDigits? m count 0 cs).bind fun (n, rest) =>
    if n.isValidChar then some (.literal (Char.ofNat n) (count = 2), rest) else none

def controlLetters : List (Char × Char) :=
  [('a', '\x07'), ('f', '\x0c'), ('t', '\t'), ('n', '\n'), ('r', '\r'), ('v', '\x0b')]

/-- Reads what stands behind a backslash. -/
def escape? (m : Mode) : List Char → Option (Atom × List Char)
  | [] => none
  | c :: cs =>
    if c = 'x' then codePoint? m 2 cs
    else if c = 'u' then codePoint? m 4 cs
    else if c = 'U' then codePoint? m 8 cs
    else if c = 'd' || c = 's' || c = 'w' then some (.named false, cs)
    else if c = 'D' || c = 'S' || c = 'W' then some (.named true, cs)
    else if c = 'A' || c = 'z' then some (.edge, cs)
    else if c = 'b' then if cs.head? = some '\x7b' then none else some (.wordEdge, cs)
    else if c = 'B' || c = '<' || c = '>' then some (.wordEdge, cs)
    else
      match controlLetters.lookup c with
      | some control => some (.literal control false, cs)
      | none => if c.toNat < 0x80 && !c.isAlphanum then some (.literal c false, cs) else none

/-- Whether an atom can stand outside classes. -/
def Atom.isAllowed (m : Mode) : Atom → Bool
  | .literal c asByte => m.hasLiterals && (m.unicode || !asByte || c.toNat < 0x80)
  | .named negated => !m.unicode && !negated
  | .edge => true
  | .wordEdge => !m.unicode

/-- Whether an atom can stand in a class, which by the rules of ASCII holds only such characters. -/
def Atom.isMember (m : Mode) : Atom → Bool
  | .literal c _ => m.hasLiterals && (m.unicode || c.toNat < 0x80)
  | .named negated => !m.unicode && !negated
  | .edge | .wordEdge => false

/-! ### How deep parts lie -/

/-- How deep parts may lie within one another. -/
def depthLimit : Nat := 250

/-- Parts side by side: how many, and how deep the deepest lies. Two or more
make a part of their own. -/
structure Parts where
  count : Nat := 0
  deepest : Nat := 0
deriving DecidableEq, Repr

namespace Parts

/-- One more part. -/
def add (p : Parts) (depth : Nat) : Parts := ⟨p.count + 1, max p.deepest depth⟩

/-- How deep the parts lie together. -/
def depth (p : Parts) : Nat := if p.count < 2 then p.deepest else p.deepest + 1

end Parts

/-! ### Classes -/

/-- A class as far as it has been read: the depth of what stands before an
operator, and the members. -/
structure Members where
  before : Option Nat := none
  parts : Parts := {}

namespace Members

/-- How deep the members lie. -/
def depth (s : Members) : Nat :=
  match s.before with
  | none => s.parts.depth
  | some before => max before s.parts.depth + 1

/-- One more member. -/
def add (s : Members) (depth : Nat) : Members := { s with parts := s.parts.add depth }

/-- Nothing yet behind an operator. -/
def operate (s : Members) : Members := { before := some s.depth }

end Members

/-- The names of classes of ASCII characters. -/
def asciiClasses : List String :=
  ["alnum", "alpha", "ascii", "blank", "cntrl", "digit", "graph", "lower", "print", "punct",
    "space", "upper", "word", "xdigit"]

/-- Reads the name of a class behind `[:`, and whether its complement is meant. -/
def asciiClass? (cs : List Char) : Option (Bool × List Char) :=
  let (negated, named) := match cs with
    | '^' :: rest => (true, rest)
    | _ => (false, cs)
  match named.dropWhile (· ≠ ':') with
  | ':' :: ']' :: rest =>
    if asciiClasses.contains (String.ofList (named.takeWhile (· ≠ ':'))) then some (negated, rest)
    else none
  | _ => none

/-- Counts the hyphens at the front of a class, which are members of it. -/
def leadingHyphens (m : Mode) (count : Nat) (cs : List Char) : Nat × List Char :=
  match cs with
  | '-' :: rest => leadingHyphens m (count + 1) (m.skip rest)
  | _ => (count, cs)
termination_by cs.length
decreasing_by exact Nat.lt_succ_of_le (m.length_skip_le rest)

/-- Reads what follows the bracket that opens a class: a mark for its complement, and the hyphens or
the bracket that are members in this place. -/
def openClass? (m : Mode) (cs : List Char) : Option (Members × List Char) :=
  let cs := m.skip cs
  let (negated, cs) := match cs with
    | '^' :: rest => (true, m.skip rest)
    | _ => (false, cs)
  let (hyphens, cs) := leadingHyphens m 0 cs
  let (count, cs) := match hyphens, cs with
    -- A bracket in the first place does not end the class.
    | 0, ']' :: rest => (1, m.skip rest)
    | _, _ => (hyphens, cs)
  if cs.isEmpty || (negated && !m.unicode) || (count ≠ 0 && !m.hasLiterals) then none
  else some ({ parts := ⟨count, 0⟩ }, cs)

def classAtom? (m : Mode) : List Char → Option (Atom × List Char)
  | [] => none
  | '\\' :: cs => escape? m cs
  | c :: cs => some (.literal c false, cs)

/-- Reads a member of a class: an atom, or a range, which ascends. -/
def member? (m : Mode) (cs : List Char) : Option (List Char) :=
  (classAtom? m cs).bind fun (first, cs) =>
    let single (rest : List Char) : Option (List Char) :=
      if first.isMember m then some rest else none
    match m.skip cs with
    | [] => none
    | '-' :: cs =>
      -- A hyphen at the end, or before another, is no range.
      if m.ahead cs = some ']' || m.ahead cs = some '-' then single ('-' :: cs)
      else
        (classAtom? m (m.skip cs)).bind fun (last, rest) =>
          match first, last with
          | .literal a _, .literal b _ =>
            if a ≤ b && first.isMember m && last.isMember m then some rest else none
          | _, _ => none
    | rest => single rest

/-- Reads a class, given the classes around it that are open. The result is how deep its parts
lie and what follows it. -/
def class? (m : Mode) (around : List Members) (s : Members) :
    (fuel : Nat) → List Char → Option (Nat × List Char)
  | 0, _ => none
  | fuel + 1, cs =>
    let nested (cs : List Char) : Option (Nat × List Char) :=
      (openClass? m cs).bind fun (inner, rest) => class? m (s :: around) inner fuel rest
    match m.skip cs with
    | [] => none
    | '[' :: ':' :: rest =>
      match asciiClass? rest with
      | some (negated, rest) =>
        if m.hasLiterals && (m.unicode || !negated) then class? m around (s.add 0) fuel rest
        else none
      | none => nested (':' :: rest)
    | '[' :: rest => nested rest
    | ']' :: rest =>
      match around with
      | [] => some (s.depth + 1, rest)
      | outer :: around => class? m around (outer.add (s.depth + 1)) fuel rest
    | '&' :: '&' :: rest | '-' :: '-' :: rest | '~' :: '~' :: rest =>
      class? m around s.operate fuel rest
    | cs => (member? m cs).bind fun rest => class? m around (s.add 0) fuel rest

/-! ### Groups -/

/-- A group as far as it has been read. -/
structure Level where
  /-- The rules outside the group. -/
  outside : Mode
  /-- The branches that are complete. -/
  branches : Parts := {}
  /-- The parts of the branch that is being read. -/
  parts : Parts := {}
  /-- How deep the last part lies, if there is one that can be repeated. -/
  last : Option Nat := none

namespace Level

/-- One more part. -/
def add (l : Level) (depth : Nat) : Level :=
  { l with parts := l.parts.add depth, last := some depth }

/-- Flags, which are a part that cannot be repeated. -/
def addFlags (l : Level) : Level := { l with parts := l.parts.add 0, last := none }

def branch (l : Level) : Level :=
  { l with branches := l.branches.add l.parts.depth, parts := {}, last := none }

/-- How deep the parts of the group lie. -/
def depth (l : Level) : Nat := (l.branches.add l.parts.depth).depth

end Level

inductive Opening where
  /-- A group, with the rules inside it. -/
  | group (inside : Mode)
  | namedGroup (name : List Char)
  /-- Flags for what follows. -/
  | flags (after : Mode)

def isNameChar (c : Char) : Bool := isAlphanumeric c || "_.[]".toList.contains c

/-- Reads the name of a group up to the bracket behind it. -/
def name? (cs : List Char) : Option (Opening × List Char) :=
  match cs.takeWhile isNameChar, cs.dropWhile isNameChar with
  | c :: name, '>' :: rest =>
    if isLetter c || c = '_' then some (.namedGroup (c :: name), rest) else none
  | _, _ => none

/-- Reads what follows the bracket that opens a group. -/
def opening? (m : Mode) (cs : List Char) : Option (Opening × List Char) :=
  match m.skip cs with
  | '?' :: '<' :: rest | '?' :: 'P' :: '<' :: rest => name? rest
  | '?' :: rest =>
    let isEnd (c : Char) : Bool := c = ':' || c = ')'
    let flags := rest.takeWhile (!isEnd ·)
    if isFlags flags then
      match rest.dropWhile (!isEnd ·) with
      | ':' :: rest => some (.group (m.withFlags flags), rest)
      | ')' :: rest => if flags.isEmpty then none else some (.flags (m.withFlags flags), rest)
      | _ => none
    else none
  | rest => some (.group m, rest)

/-! ### Reading -/

/-- What follows the mark of a repetition: another one says that it is to be short. -/
def afterRepetition : List Char → List Char
  | '?' :: cs => cs
  | cs => cs

/-- How deep the parts of a pattern lie, given the groups that are open, the innermost of them and
the names that groups have. -/
def depth? (m : Mode) (around : List Level) (l : Level) (names : List (List Char)) :
    (fuel : Nat) → List Char → Option Nat
  | 0, _ => none
  | fuel + 1, cs =>
    match m.skip cs with
    | [] => if around.isEmpty then some l.depth else none
    | c :: cs =>
      let atom (a : Atom) (rest : List Char) : Option Nat :=
        if a.isAllowed m then depth? m around (l.add 0) names fuel rest else none
      if c = '(' then
        (opening? m cs).bind fun
          | (.group inside, rest) => depth? inside (l :: around) { outside := m } names fuel rest
          | (.namedGroup name, rest) =>
            if names.contains name then none
            else depth? m (l :: around) { outside := m } (name :: names) fuel rest
          | (.flags after, rest) => depth? after around l.addFlags names fuel rest
      else if c = ')' then
        match around with
        | [] => none
        | outer :: around => depth? l.outside around (outer.add (l.depth + 1)) names fuel cs
      else if c = '|' then depth? m around l.branch names fuel cs
      else if c = '*' || c = '+' || c = '?' then
        l.last.bind fun last =>
          let repeated : Level :=
            { l with parts.deepest := max l.parts.deepest (last + 1), last := some (last + 1) }
          depth? m around repeated names fuel (afterRepetition cs)
      -- A counted repetition is not among what is read.
      else if c = '\x7b' then none
      else if c = '[' then
        (openClass? m cs).bind fun (s, rest) =>
          (class? m [] s (rest.length + 1) rest).bind fun (depth, rest) =>
            depth? m around (l.add depth) names fuel rest
      else if c = '\\' then (escape? m cs).bind fun (a, rest) => atom a rest
      else if c = '.' then if m.unicode then depth? m around (l.add 0) names fuel cs else none
      else if c = '^' || c = '$' then atom .edge cs
      else atom (.literal c false) cs

/-- Whether a text is a regular expression. A brace that opens stands for a counted repetition,
which is not among those that are read. -/
def isPattern (cs : List Char) : Bool :=
  (depth? {} [] { outside := {} } [] (cs.length + 1) cs).any (· ≤ depthLimit)

end NodeAdmission.Text.Pattern
