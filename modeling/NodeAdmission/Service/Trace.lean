import NodeAdmission.Admission.Challenge
import NodeAdmission.Http.Call
import NodeAdmission.Http.Interface
import NodeAdmission.Http.Proxy
import NodeAdmission.Crypto.Client
import NodeAdmission.Subprocess
import NodeAdmission.Service.Bootstrap
import NodeAdmission.Service.Filter
import NodeAdmission.Service.Settings
import NodeAdmission.Timed

/-!
# What a service does

A service acts on its `Host`: it sends requests, runs commands, listens and answers. Every action is
written into the trace of a `Traced` world, so what the service did is what its trace says.

* `Host` — what a service runs on, with a world that may change at every action.
* `observe` — takes an action and writes it down, with what came of it. All actions of a service are
  taken through it, but for answers, which are written down when they are made (`Host.answer`).
* `Program.run` — a service with the configuration that could be read. An error that ends the
  program is told in the log and by the exit status.

Log lines are actions as well; whether a line is written in the end is decided by a filter
(`NodeAdmission.Service.Filter`).
-/

namespace NodeAdmission.Service

structure Host (ω : Type) where
  /-- Sends a request. -/
  exchange : Http.Exchange (Timed ω)
  /-- Runs a command. -/
  runner : Subprocess.Runner (Timed ω)
  /-- Begins to listen. -/
  listen : UInt16 → Timed ω (Except OsError Unit)
  /-- The challenges in the order in which they are drawn. -/
  challenges : Nat → Admission.Challenge

inductive Action where
  | logged (line : LogLine)
  | sent (request : Http.Request) (reply : Http.Reply)
  | ran (command : Subprocess.Command) (outcome : Subprocess.Outcome)
  | listened (number : UInt16) (result : Except OsError Unit)
  | answered (request : Http.Incoming) (answer : Http.Answer)

/-- A world with the actions that a service took in it. -/
structure Traced (ω : Type) where
  world : ω
  trace : List Action := []
  /-- Whether the control loop broke down. -/
  halted : Bool := false

/-- How the run of a service ended. -/
inductive Ending where
  /-- It was given up before the service was registered. -/
  | unregistered
  | failed (e : ServiceError)
  | stopped
deriving DecidableEq, Repr

/-- Takes an action and writes it down. -/
def observe (act : Timed ω α) (action : α → Action) : Timed (Traced ω) α := fun now t =>
  let r := act now t.world
  ⟨r.value, r.elapsed, { t with world := r.world, trace := t.trace ++ [action r.value] }⟩

/-- Writes an action down. -/
def note (action : Action) : Timed (Traced ω) Unit :=
  Timed.modify fun t => { t with trace := t.trace ++ [action] }

def log (line : LogLine) : Timed (Traced ω) Unit := note (.logged line)

namespace Host

/-- The host with the proxies that variables name. -/
def behind (host : Host ω) (lookup : Lookup) : Host ω :=
  { host with exchange := (Http.Proxies.ofVariables lookup).route host.exchange }

def send (host : Host ω) : Http.Exchange (Timed (Traced ω)) := fun request =>
  observe (host.exchange request) (.sent request)

def run (host : Host ω) : Subprocess.Runner (Timed (Traced ω)) := fun command =>
  observe (host.runner command) (.ran command)

def bind (host : Host ω) (number : UInt16) : Timed (Traced ω) (Except OsError Unit) :=
  observe (host.listen number) (.listened number)

def answer (routes : Http.Interface (Timed (Traced ω))) (request : Http.Incoming) :
    Timed (Traced ω) Unit := do
  let answer ← routes.respond request
  note (.answered request answer)

def registrar (host : Host ω) (crypto : Crypto.Client) : Registrar (Timed (Traced ω)) :=
  { register := fun client => do
      let call := crypto.register client
      log { level := .debug, target := "nodeauth::crypto_client"
            message := call.method.name ++ " " ++ call.url }
      call.perform host.send
    sleep := Timed.sleep
    log := log }

end Host

/-! ### Programs -/

def logLines (trace : List Action) : List LogLine :=
  trace.filterMap fun
    | .logged line => some line
    | _ => none

/-- How a program reports its errors. -/
structure Program where
  target : String
  /-- What comes before an error of the run. -/
  complaint : String
  /-- Which log lines are written unless it is told otherwise. -/
  filter : Filter

/-- The line about an error that ends a program. -/
def Program.failureLine (p : Program) (heading : String) (e : ServiceError) : LogLine :=
  { level := .error, target := p.target, message := heading ++ ": " ++ e.message }

/-- Runs a service with the configuration that could be read, and reports the error that ends it. -/
def Program.run (p : Program) (config : Except ServiceError α)
    (service : α → Timed (Traced ω) Ending) :
    Timed (Traced ω) Ending :=
  match config with
  | .error e => do
    log (p.failureLine "Configuration error" e)
    return .failed e
  | .ok c => do
    match ← service c with
    | .failed e =>
      log (p.failureLine p.complaint e)
      return .failed e
    | ending => return ending

/-- The exit status of a program that breaks off before it starts. -/
def brokenOff : Nat := 101

/-- The exit status of a program that ended. -/
def Ending.exitStatus : Ending → Nat
  | .unregistered => 1
  | .failed _ => 1
  | .stopped => 0

end NodeAdmission.Service
