import NodeAdmission.Service.Log
import NodeAdmission.Text.Alphanumeric
import NodeAdmission.Text.Blank
import NodeAdmission.Text.Numeral
import NodeAdmission.Text.Pattern
import NodeAdmission.Text.Pieces

/-!
# Filters of the log

A filter decides which lines are written. It is a list of directives between commas, such as
`server=info,server::loop=debug`, and of those that fit a line the most particular one counts. A
directive is a level, which stands for every line, or a target and perhaps a level, which stands for
the lines whose target begins so. `target[{name}]=level` asks for a value of that name besides.

Directives that ask for the span around a line, or for what a value is, are understood but let no
line pass, as no line stands in a span.

* `Filter.passes` — whether a line is written.
* `Filter.readDirective` — a directive is read character by character (`readChar`), and what has
  been found is cut out of the text by bytes.
* `Filter.ofVariable` — a text that is no filter is as good as none, with one exception: a place
  that lies within a character stops the program.
-/

namespace NodeAdmission.Service

/-- What a filter says about some lines: those up to a rank are written. -/
structure Directive where
  /-- How the target of a line begins, if it matters. -/
  target : Option String
  /-- The value that a line must have, if one is asked for. -/
  field : Option String
  rank : Nat
deriving DecidableEq, Repr

namespace Directive

/-- Whether the directive is about a line. -/
def fits (d : Directive) (line : LogLine) : Bool :=
  d.target.all (fun t => t.toList.isPrefixOf line.target.toList) && d.field.all line.hasValue

/-- Whether another directive is more particular: its target is longer, or it asks for a value, or
for one with a later name. -/
def yieldsTo (d other : Directive) : Bool :=
  let extent (x : Directive) : Nat := x.target.elim 0 (·.utf8ByteSize + 1)
  if extent d ≠ extent other then extent d < extent other
  else
    match d.field, other.field with
    | none, some _ => true
    | some a, some b => a < b
    | _, none => false

end Directive

abbrev Filter := List Directive

namespace Filter

/-- The filter that lets the lines of some targets pass down to a level. -/
def ofTargets (least : Level) (targets : List String) : Filter :=
  targets.map fun target => ⟨some target, none, least.rank⟩

/-- The directive that counts for a line; of equal ones the last. -/
def directiveFor (filter : Filter) (line : LogLine) : Option Directive :=
  filter.foldl
    (fun best d =>
      if d.fits line then
        match best with
        | none => some d
        -- Of two that are equally particular the later one.
        | some b => if d.yieldsTo b then best else some d
      else best)
    none

def passes (filter : Filter) (line : LogLine) : Bool :=
  (filter.directiveFor line).any fun d => line.level.rank ≤ d.rank

/-! ### Levels -/

def rankNames : List (String × Nat) :=
  [("off", 0), ("error", 1), ("warn", 2), ("info", 3), ("debug", 4), ("trace", 5)]

/-- The rank that lets every line pass. -/
def allLines : Nat := 5

/-- The rank that a word stands for, by name in any case or by number. -/
def rank? (word : List Char) : Option Nat :=
  match Numeral.readUnsigned UInt64.size word with
  | .ok n => if n ≤ allLines then some n else none
  | .error _ => rankNames.lookup (String.ofList (word.map Char.toLower))

/-! ### Reading -/

inductive FilterError where
  | malformed
  /-- A place that was found lies within a character, so there is no text from it. -/
  | withinCharacter
deriving DecidableEq, Repr

def dropBytes (n : Nat) : List Char → Except FilterError (List Char)
  | [] => if n = 0 then .ok [] else .error .withinCharacter
  | c :: cs =>
    if n = 0 then .ok (c :: cs)
    else if c.utf8Size ≤ n then dropBytes (n - c.utf8Size) cs
    else .error .withinCharacter

def takeBytes (n : Nat) : List Char → Except FilterError (List Char)
  | [] => if n = 0 then .ok [] else .error .withinCharacter
  | c :: cs =>
    if n = 0 then .ok []
    else if c.utf8Size ≤ n then (takeBytes (n - c.utf8Size) cs).map (c :: ·)
    else .error .withinCharacter

def byteCount : List Char → Nat
  | [] => 0
  | c :: cs => c.utf8Size + byteCount cs

def slice (text : List Char) (start stop : Nat) : Except FilterError (List Char) :=
  (dropBytes start text).bind (takeBytes (stop - start))

/-- What a directive has been read to ask for. -/
structure Draft where
  target : Option String := none
  field : Option String := none
  /-- Whether a span or what a value is has been asked for. -/
  dynamic : Bool := false

/-- Which part of a directive is being read, and at which byte it began. -/
inductive Part where
  | start
  | levelOrTarget
  | span (start : Nat)
  | field (start : Nat)
  | behindField
  | behindSpan
  | level (start : Nat)

/-- Whether a text is a power of ten behind its `e`: digits, perhaps with a sign. -/
def isExponent (cs : List Char) : Bool :=
  let digits := match cs with | '+' :: ds | '-' :: ds => ds | ds => ds
  !digits.isEmpty && digits.all Char.isDigit

/-- Whether a text is a number without a sign: digits with at most one point, and
perhaps a power of ten. -/
def isNumber (cs : List Char) : Bool :=
  let isMark (c : Char) : Bool := c = 'e' || c = 'E'
  let mantissa := cs.takeWhile (!isMark ·)
  let parts := Text.pieces '.' mantissa
  parts.length ≤ 2 && parts.all (·.all Char.isDigit) && mantissa.any Char.isDigit &&
    match cs.dropWhile (!isMark ·) with
    | [] => true
    | _ :: exponent => isExponent exponent

/-- Whether a text is a number with a plus in front, which is no pattern. -/
def isPositiveNumber : List Char → Bool
  | '+' :: cs =>
    isNumber cs || ["inf", "infinity", "nan"].contains (String.ofList (cs.map Char.toLower))
  | _ => false

/-- Takes a value that is asked for: its name, or its name and a number or pattern. -/
def Draft.withField (d : Draft) (cs : List Char) : Except FilterError Draft :=
  match Text.pieces '=' cs with
  | [name] =>
    if name.isEmpty then .error .malformed else .ok { d with field := some (String.ofList name) }
  | _ :: value :: _ =>
    if Text.Pattern.isPattern value || isPositiveNumber value then .ok { d with dynamic := true }
    else .error .malformed
  | [] => .error .malformed

/-- Reads on by the character `c` at the byte `place`. -/
def readChar (text : List Char) (place : Nat) (c : Char) (part : Part) (d : Draft) :
    Except FilterError (Part × Draft) :=
  match part with
  | .start =>
    if c = '[' then .ok (.span (place + 1), d)
    else if c = '-' || c = ':' || c = '_' || Text.isAlphanumeric c then .ok (.levelOrTarget, d)
    else .error .malformed
  | .levelOrTarget =>
    if c = '=' || c = '[' then do
      let target ← takeBytes place text
      let d := { d with target := some (String.ofList target) }
      return (if c = '=' then .level (place + 1) else .span (place + 1), d)
    else .ok (part, d)
  | .span start =>
    if c = ']' then do
      let _ ← slice text start place
      return (.behindSpan, { d with dynamic := true })
    else if c = '\x7b' then do
      let name ← slice text start place
      return (.field (place + 1), { d with dynamic := d.dynamic || !name.isEmpty })
    else .ok (part, d)
  | .field start =>
    if c = '\x7d' then do
      let d ← d.withField (← slice text start place)
      return (.behindField, d)
    else .ok (part, d)
  | .behindField => if c = ']' then .ok (.behindSpan, d) else .error .malformed
  | .behindSpan => if c = '=' then .ok (.level (place + 1), d) else .error .malformed
  | .level _ => .ok (part, d)

/-- Reads characters from the byte `place` on. -/
def readChars (text : List Char) (place : Nat) (part : Part) (d : Draft) :
    List Char → Except FilterError (Part × Draft)
  | [] => .ok (part, d)
  | c :: cs =>
    match readChar text place c part d with
    | .error e => .error e
    | .ok (part, d) => readChars text (place + c.utf8Size) part d cs

/-- The directive that is asked for, with the rank of its lines. -/
def Draft.directives (d : Draft) (rank : Nat) : List Directive :=
  if d.dynamic then [] else [⟨d.target, d.field, rank⟩]

/-- Reads a directive, if it is one that can let a line pass. Blanks around a directive do not count
where it is told apart, but the places that are found are places of the text with its blanks. -/
def readDirective (text : List Char) : Except FilterError (List Directive) :=
  match readChars text 0 .start {} (Text.trimChars text) with
  | .error e => .error e
  | .ok (.levelOrTarget, d) =>
    match rank? text with
    | some rank => .ok (d.directives rank)
    | none => .ok ({ d with target := some (String.ofList text) }.directives allLines)
  | .ok (.level start, d) =>
    match dropBytes start text with
    | .error e => .error e
    | .ok [] => .ok (d.directives allLines)
    | .ok level =>
      match rank? level with
      | some rank => .ok (d.directives rank)
      | none => .error .malformed
  | .ok (.behindSpan, d) => .ok (d.directives allLines)
  | .ok _ => .error .malformed

/-- Reads a filter; without any directive no line is written. -/
def read (text : String) : Except FilterError Filter :=
  (((Text.pieces ',' text.toList).filter (· ≠ [])).mapM readDirective).map List.flatten

/-- The filter of a variable, if it is set and well-formed, and else the default. A program does not
start with a text that has no such places. -/
def ofVariable (value : Option String) (default : Filter) : Option Filter :=
  match value.map read with
  | none | some (.error .malformed) => some default
  | some (.ok filter) => some filter
  -- The program breaks off before it has written anything.
  | some (.error .withinCharacter) => none

end Filter
end NodeAdmission.Service
