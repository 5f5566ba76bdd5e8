import NodeAdmission.Json.Parsed
import NodeAdmission.Json.TextMap

/-!
# Typed values from JSON

A `Decoder` walks a parsed value from the left and stops at the first thing that is wrong. A record
may be written as an object, in which unknown fields are skipped and no known one is repeated, or as
an array of its fields in the order of their declaration, whose missing tail counts as absent.

* `Decoder.text`, `Decoder.int`, `Decoder.optional`, `Decoder.list`, `Decoder.textMap` — the
  decoders that others are made of.
* `Decoder.record` — a decoder from a list of fields, each with its name and what its value does to
  what is known of the record. What is known at the end may be enough for a record or not.
* `Decoder.decode` — reads a whole text, which must hold nothing after the value.

A value that is kept is checked more strictly than one that is skipped: of a skipped string or
number only the spelling counts (`Damage`).
-/

namespace NodeAdmission.Json

abbrev Decoder (α : Type) := Parsed → Except DecodeError α

/-- The complaint about a value of the wrong type; a value that cannot even be kept is malformed. -/
def Parsed.complaint : Parsed → DecodeError
  | .number n => if n.overflows then .malformed else .mismatch
  | .string content =>
    match textOf content with
    | .ok _ => .mismatch
    | .error e => e
  | .broken d => d.kept
  | .null | .bool _ | .array _ _ | .object _ _ => .mismatch

/-- The damage of a value that is skipped. -/
def Parsed.skipError? : Parsed → Option DecodeError
  | .broken d => some d.skipped
  | .array _ (.broken d) => some d.skipped
  | .object _ (.broken d) => some d.skipped
  | _ => none

/-- The end of an array or object whose contents were kept. -/
def Ending.check : Ending → Except DecodeError Unit
  | .closed => .ok ()
  | .broken d => .error d.kept

namespace Decoder

def text : Decoder String
  | .string content => textOf content
  | v => .error v.complaint

def int (low high : Int) : Decoder Int
  | .number n =>
    match n.int? with
    | some i => if low ≤ i ∧ i ≤ high then .ok i else .error .mismatch
    | none => .error (Parsed.number n).complaint
  | v => .error v.complaint

def optional (d : Decoder α) : Decoder (Option α)
  | .null => .ok none
  | v => (d v).map some

def items (d : Decoder α) : List Parsed → Except DecodeError (List α)
  | [] => .ok []
  | v :: vs =>
    match d v with
    | .error e => .error e
    | .ok a => (items d vs).map (a :: ·)

def list (d : Decoder α) : Decoder (List α)
  | .array vs ending =>
    match items d vs with
    | .error e => .error e
    | .ok as => ending.check.map fun _ => as
  | v => .error v.complaint

def entries (m : TextMap) : List (List Piece × Parsed) → Except DecodeError TextMap
  | [] => .ok m
  | (k, v) :: ms =>
    match textOf k, text v with
    | .error e, _ => .error e
    | _, .error e => .error e
    | .ok key, .ok value => entries (m.insert key value) ms

/-- A map from text to text, of which the last of repeated keys counts. -/
def textMap : Decoder TextMap
  | .object ms ending =>
    match entries .empty ms with
    | .error e => .error e
    | .ok m => ending.check.map fun _ => m
  | v => .error v.complaint

/-! ### Records -/

/-- A field of a record: its name, and how its value goes into what is known of the record. -/
structure Field (δ : Type) where
  name : String
  read : Parsed → δ → Except DecodeError δ

def Field.of (name : String) (d : Decoder β) (put : β → δ → δ) : Field δ :=
  ⟨name, fun v draft => (d v).map (put · draft)⟩

/-- The members of an object, of which the fields in `seen` came before. -/
def members (fields : List (Field δ)) (seen : List String) :
    List (List Piece × Parsed) → δ → Except DecodeError δ
  | [], draft => .ok draft
  | (k, v) :: ms, draft =>
    match textOf k with
    | .error e => .error e
    | .ok key =>
      match fields.find? (·.name = key) with
      -- A field that nobody knows; its value has to be well-formed all the same.
      | none =>
        match v.skipError? with
        | some e => .error e
        | none => members fields seen ms draft
      | some f =>
        if seen.contains key then .error .mismatch
        else
          match f.read v draft with
          | .error e => .error e
          | .ok draft' => members fields (key :: seen) ms draft'

section

variable {fields : List (Field δ)} {seen : List String} {m : List Piece × Parsed}
  {ms : List (List Piece × Parsed)} {draft draft' : δ} {name : String} {f : Field δ}

/-- A member with the name of no field is skipped. -/
theorem members_cons_of_none (hname : textOf m.1 = .ok name)
    (hfind : fields.find? (·.name = name) = none) (hskip : m.2.skipError? = none) :
    members fields seen (m :: ms) draft = members fields seen ms draft := by
  rw [members, hname]
  simp only [hfind, hskip]

/-- A member with the name of a field is read into the draft. -/
theorem members_cons_of_some (hname : textOf m.1 = .ok name)
    (hfind : fields.find? (·.name = name) = some f) (hunseen : name ∉ seen)
    (hread : f.read m.2 draft = .ok draft') :
    members fields seen (m :: ms) draft = members fields (name :: seen) ms draft' := by
  have hnew : seen.contains name = false := by simpa using hunseen
  rw [members, hname]
  simp only [hfind, hnew, hread, Bool.false_eq_true, if_false]

end

/-- The items of an array that stand for the fields in order. -/
def positions : List (Field δ) → List Parsed → Ending → δ → Except DecodeError δ
  | _, [], ending, draft => ending.check.map fun _ => draft
  | [], _ :: _, _, _ => .error .malformed
  | f :: fields, v :: vs, ending, draft =>
    match f.read v draft with
    | .error e => .error e
    | .ok draft' => positions fields vs ending draft'

/-- A record: what its fields say about `blank`, if that is enough. -/
def record (fields : List (Field δ)) (blank : δ) (complete : δ → Option α) : Decoder α
  | .object ms ending =>
    match members fields [] ms blank with
    | .error e => .error e
    | .ok draft =>
      match ending with
      | .broken d => .error d.kept
      | .closed => (complete draft).elim (.error .mismatch) .ok
  -- The fields by their places.
  | .array vs ending =>
    match positions fields vs ending blank with
    | .error e => .error e
    | .ok draft => (complete draft).elim (.error .mismatch) .ok
  | v => .error v.complaint

def decode (d : Decoder α) (bytes : Bytes) : Except DecodeError α :=
  let document := Document.read bytes
  match d document.value with
  | .error e => .error e
  | .ok a => if document.trailing then .error .malformed else .ok a

end Decoder
end NodeAdmission.Json
