import NodeAdmission.Json.Token

/-!
# A JSON text as far as it could be read

`Document.read` turns the tokens of a text into a tree. A text that breaks off or goes wrong still
has a tree: it holds everything before the damage, and every array and object around that place is
marked as `Ending.broken`. A reader that walks the tree from the left therefore meets its own
complaints (a wrong type, a repeated field) before the damage exactly when they come first in the
text, and a value that is skipped shows its damage at its root.

The tree is put together token by token (`Assembly.step`), with the arrays and objects that
are still open on a stack of frames. What may come next is told by the place and by the
innermost frame alone. After the damage nothing is looked at any more, and after a whole value
every token is one too many.
-/

namespace NodeAdmission.Json

inductive Ending where
  | closed
  | broken (damage : Damage)
deriving DecidableEq, Repr

/-- A JSON value as far as it could be read. -/
inductive Parsed where
  | null
  | bool (b : Bool)
  | number (n : Number)
  | string (content : List Piece)
  | array (items : List Parsed) (ending : Ending)
  | object (members : List (List Piece × Parsed)) (ending : Ending)
  | broken (damage : Damage)

/-- An array or object that is still open around the present place; its contents are in reverse. -/
inductive Frame where
  | item (before : List Parsed)
  | member (before : List (List Piece × Parsed)) (key : List Piece)

/-- What may come next. -/
inductive Place where
  /-- A value. -/
  | value
  /-- The first item or the end of an array. -/
  | firstItem
  /-- The first key or the end of an object. -/
  | firstKey
  /-- The key after a comma. -/
  | key (before : List (List Piece × Parsed))
  /-- The colon after a key. -/
  | colon (before : List (List Piece × Parsed)) (key : List Piece)
  /-- A comma or the end of an array. -/
  | afterItem (items : List Parsed)
  /-- A comma or the end of an object. -/
  | afterMember (members : List (List Piece × Parsed))

/-- The tree so far. -/
inductive Assembly where
  | inside (place : Place) (frames : List Frame)
  | complete (value : Parsed) (trailing : Bool)

namespace Assembly

def start : Assembly := .inside .value []

/-- Puts a value where the innermost frame wants it. -/
def deliver (v : Parsed) : List Frame → Assembly
  | [] => .complete v false
  | .item before :: frames => .inside (.afterItem (v :: before)) frames
  | .member before key :: frames => .inside (.afterMember ((key, v) :: before)) frames

/-- Closes every frame around a damaged value. -/
def abandon (d : Damage) : Parsed → List Frame → Parsed
  | v, [] => v
  | v, .item before :: frames => abandon d (.array (v :: before).reverse (.broken d)) frames
  | v, .member before key :: frames =>
    abandon d (.object ((key, v) :: before).reverse (.broken d)) frames

/-- The whole tree around a damaged value. -/
def damaged (d : Damage) (v : Parsed) (frames : List Frame) : Assembly :=
  .complete (abandon d v frames) false

/-- The damage of a token that may not come here. -/
def unexpected : Damage := .plain .malformed

/-- A token where a value is wanted. -/
def stepValue (frames : List Frame) : Token → Assembly
  | .null => deliver .null frames
  | .bool b => deliver (.bool b) frames
  | .number n => deliver (.number n) frames
  | .string content => deliver (.string content) frames
  | .openArray => .inside .firstItem frames
  | .openObject => .inside .firstKey frames
  | .brokenString d => damaged d (.broken d) frames
  | .broken d => damaged d (.broken d) frames
  | .closeArray | .closeObject | .comma | .colon => damaged unexpected (.broken unexpected) frames

/-- A token where a key is wanted. -/
def stepKey (before : List (List Piece × Parsed)) (frames : List Frame) : Token → Assembly
  | .string content => .inside (.colon before content) frames
  | .brokenString d => damaged d (.object before.reverse (.broken d)) frames
  | _ => damaged unexpected (.object before.reverse (.broken unexpected)) frames

def step : Assembly → Token → Assembly
  | .complete v _, _ => .complete v true
  | .inside .value frames, t => stepValue frames t
  | .inside .firstItem frames, .closeArray => deliver (.array [] .closed) frames
  | .inside .firstItem frames, t => stepValue (.item [] :: frames) t
  | .inside .firstKey frames, .closeObject => deliver (.object [] .closed) frames
  | .inside .firstKey frames, t => stepKey [] frames t
  | .inside (.key before) frames, t => stepKey before frames t
  | .inside (.colon before key) frames, .colon => .inside .value (.member before key :: frames)
  -- The key is there but its value is not; the member counts with a broken value.
  | .inside (.colon before key) frames, _ =>
    damaged unexpected (.broken unexpected) (.member before key :: frames)
  | .inside (.afterItem items) frames, .comma => .inside .value (.item items :: frames)
  | .inside (.afterItem items) frames, .closeArray => deliver (.array items.reverse .closed) frames
  | .inside (.afterItem items) frames, _ =>
    damaged unexpected (.array items.reverse (.broken unexpected)) frames
  | .inside (.afterMember members) frames, .comma => .inside (.key members) frames
  | .inside (.afterMember members) frames, .closeObject =>
    deliver (.object members.reverse .closed) frames
  | .inside (.afterMember members) frames, _ =>
    damaged unexpected (.object members.reverse (.broken unexpected)) frames

end Assembly

/-- What was read: a value, and whether anything but blanks follows it. -/
structure Document where
  value : Parsed
  trailing : Bool

def cutOff : Damage := .plain .truncated

def Assembly.finish : Assembly → Document
  | .complete v trailing => ⟨v, trailing⟩
  | .inside .value frames => ⟨abandon cutOff (.broken cutOff) frames, false⟩
  | .inside .firstItem frames => ⟨abandon cutOff (.array [] (.broken cutOff)) frames, false⟩
  | .inside .firstKey frames => ⟨abandon cutOff (.object [] (.broken cutOff)) frames, false⟩
  | .inside (.key before) frames =>
    ⟨abandon cutOff (.object before.reverse (.broken cutOff)) frames, false⟩
  | .inside (.colon before key) frames =>
    ⟨abandon cutOff (.broken cutOff) (.member before key :: frames), false⟩
  | .inside (.afterItem items) frames =>
    ⟨abandon cutOff (.array items.reverse (.broken cutOff)) frames, false⟩
  | .inside (.afterMember members) frames =>
    ⟨abandon cutOff (.object members.reverse (.broken cutOff)) frames, false⟩

def Document.ofTokens (ts : List Token) : Document := (ts.foldl Assembly.step Assembly.start).finish

def Document.read (text : Bytes) : Document := Document.ofTokens (tokens text)

end NodeAdmission.Json
