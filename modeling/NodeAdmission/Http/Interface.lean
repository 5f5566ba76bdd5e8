import NodeAdmission.Http.ErrorReport
import NodeAdmission.Text.Utf8

/-!
# HTTP interfaces

An interface is a list of routes, each with the path that it stands for. `Interface.respond` looks
up the path of a request exactly as it is written: the query does not count, nothing is decoded, and
an unknown path is not found. A route for `GET` also serves `HEAD`, with the answer to `GET` without
its body. Any other method is refused with the methods that are allowed.

Handlers are actions in a monad that is left open, so that an interface can be asked what it does
(`Service.Host.answer`) as well as what it answers. What a handler sees of a request is its body
alone; a handler for reading sees nothing of it.
-/

namespace NodeAdmission.Http

structure Incoming where
  method : String
  /-- The target of the request line: a path with an optional query, or a whole URL. -/
  target : String
  headers : List (String × String) := []
  body : Bytes := []
deriving DecidableEq, Repr

structure Answer where
  status : UInt16
  contentType : Option String := none
  allow : Option String := none
  body : Bytes := []
deriving DecidableEq, Repr

namespace Answer

def plainText : String := "text/plain; charset=utf-8"

def json : String := "application/json"

/-- An answer that consists of a status alone. -/
def empty (status : UInt16) : Answer := { status }

def text (status : UInt16) (s : String) : Answer :=
  { status, contentType := some plainText, body := Utf8.encode s }

def report (status : UInt16) (error : String) : Answer :=
  { status, contentType := some json, body := (ErrorReport.mk error).toJson.bytes }

def notFound : Answer := .empty 404

def methodNotAllowed (allow : String) : Answer := { status := 405, allow := some allow }

/-- The answer of a handler that broke down. -/
def broken : Answer := .text 500 "Service panicked"

def withoutBody (a : Answer) : Answer := { a with body := [] }

end Answer

/-- What becomes of work on a request: a result, or a breakdown of the worker. -/
inductive Work (α : Type) where
  | finished (result : α)
  | brokeDown
deriving DecidableEq, Repr

/-- The answer that work leads to. -/
def Work.answer (w : Work α) (f : α → Answer) : Answer :=
  match w with
  | .finished a => f a
  | .brokeDown => .broken

inductive Route (m : Type → Type) where
  /-- Reading, by `GET` and `HEAD`. -/
  | get (handler : m Answer)
  /-- Sending a body, by `POST`. -/
  | post (handler : Bytes → m Answer)

/-- The routes of an interface with their paths. -/
abbrev Interface (m : Type → Type) := List (String × Route m)

/-! ### Looking up a path -/

/-- The characters that end a path. -/
def endsPath (c : Char) : Bool := c = '?' || c = '#'

def afterScheme : List Char → Option (List Char)
  | [] => none
  | ':' :: '/' :: '/' :: cs => some cs
  | _ :: cs => afterScheme cs

/-- The path of a target; a whole URL without a path has the path `/`. -/
def pathOf (target : String) : String :=
  match target.toList with
  | '/' :: cs => String.ofList ('/' :: cs.takeWhile fun c => !endsPath c)
  -- A whole URL, as a proxy is sent one.
  | cs =>
    match afterScheme cs with
    | none => ""
    | some rest =>
      match rest.dropWhile fun c => c ≠ '/' && !endsPath c with
      | '/' :: cs => String.ofList ('/' :: cs.takeWhile fun c => !endsPath c)
      | _ => "/"

namespace Interface

def route? (routes : Interface m) (path : String) : Option (Route m) :=
  (routes.find? (·.1 = path)).map Prod.snd

def serve [Monad m] (request : Incoming) : Route m → m Answer
  | .get handler =>
    if request.method = "GET" then handler
    -- The handler does all that it does for `GET`.
    else if request.method = "HEAD" then do
      let answer ← handler
      return answer.withoutBody
    else pure (.methodNotAllowed "GET,HEAD")
  | .post handler =>
    if request.method = "POST" then handler request.body else pure (.methodNotAllowed "POST")

def respond [Monad m] (routes : Interface m) (request : Incoming) : m Answer :=
  match routes.route? (pathOf request.target) with
  | none => pure .notFound
  | some route => serve request route

end Interface
end NodeAdmission.Http
