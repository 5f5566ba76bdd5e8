import NodeAdmission.Duration
import NodeAdmission.OsError
import NodeAdmission.Path
import NodeAdmission.Text.Utf8

/-!
# Child processes

A command is a program and its arguments, each one a single word whatever characters it holds. What
becomes of it is an `Outcome`: it cannot be started, or it runs for some time, perhaps for ever, and
then leaves a status and what it wrote. As with HTTP, nothing here starts a process: whoever needs
one is given a `Runner`.

* `obstacle?`, `Command.startError?` — why a command cannot be started, in the order in
  which the system finds out.
* `Outcome.within` — what is seen of a command by someone who does not wait for ever. A command that
  takes too long is ended, and what it has written is lost.
-/

namespace NodeAdmission

namespace Subprocess

structure Command where
  program : String
  args : List String
deriving DecidableEq, Repr

def Command.words (c : Command) : List String := c.program :: c.args

/-- The longest word that a command may hold, in bytes. -/
def wordLimit : Nat := 131071

/-- Why a program cannot be run. A name without a slash is looked for among the programs that are
found by their names; a directory, which `.` and `..` name too, is no program. -/
def obstacle? (programs : List String) (entry : (path : String) → Option Path.Entry)
    (program : String) :
    Option OsError :=
  if program.toList.contains '/' then
    match Path.resolve entry program with
    | .error e => some e
    | .ok ⟨_, none⟩ => some .noSuchFile
    | .ok ⟨_, some .program⟩ => none
    | .ok _ => some .permissionDenied
  else if program.utf8ByteSize > Path.nameLimit then some Path.nameTooLong
  else if program = "." || program = ".." then some .permissionDenied
  else if programs.contains program then none
  else some .noSuchFile

/-- Why a command cannot be started, given what stands in the way of its program. A zero byte is
found first, and a word that is too long only when the program is there. -/
def Command.startError? (c : Command) (obstacle : (program : String) → Option OsError) :
    Option OsError :=
  if c.words.any fun w => w.toList.contains (Char.ofNat 0) then some .zeroByte
  else
    match obstacle c.program with
    | some e => some e
    | none =>
      if c.words.any fun w => w.utf8ByteSize > wordLimit then some .argumentsTooLong else none

inductive ExitStatus where
  | exited (code : Nat)
  | signalled (number : Nat) (name : String)
deriving DecidableEq, Repr

namespace ExitStatus

/-- Only the code 0 is success. -/
def isSuccess : ExitStatus → Bool
  | .exited code => code = 0
  | .signalled _ _ => false

/-- The signals that a process can be ended by, with their numbers. -/
def signals : List (String × Nat) :=
  [("SIGHUP", 1), ("SIGINT", 2), ("SIGQUIT", 3), ("SIGILL", 4), ("SIGTRAP", 5), ("SIGABRT", 6),
   ("SIGBUS", 7), ("SIGFPE", 8), ("SIGKILL", 9), ("SIGUSR1", 10), ("SIGSEGV", 11), ("SIGUSR2", 12),
   ("SIGPIPE", 13), ("SIGALRM", 14), ("SIGTERM", 15), ("SIGSTKFLT", 16), ("SIGXCPU", 24),
   ("SIGXFSZ", 25), ("SIGVTALRM", 26), ("SIGPROF", 27), ("SIGIO", 29), ("SIGPWR", 30),
   ("SIGSYS", 31)]

/-- The status of a process that was ended by the signal with a name. -/
def ofSignal? (name : String) : Option ExitStatus :=
  (signals.find? (·.1 = name)).map fun (name, number) => .signalled number name

def message : ExitStatus → String
  | .exited code => "exit status: " ++ toString code
  | .signalled number name => "signal: " ++ toString number ++ " (" ++ name ++ ")"

end ExitStatus

structure Ended where
  status : ExitStatus
  stdout : Bytes
  stderr : Bytes
deriving DecidableEq, Repr

/-- What becomes of a command. -/
inductive Outcome where
  | notStarted (error : OsError)
  /-- It ends after `lasting` nanoseconds. -/
  | ended (lasting : Nat) (process : Ended)
  /-- It does not end. -/
  | endless
deriving DecidableEq, Repr

abbrev Runner (m : Type → Type) := Command → m Outcome

/-- What is seen of a command by someone who waits for it. -/
inductive Seen where
  | notStarted (error : OsError)
  | tookTooLong
  | ended (process : Ended)
deriving DecidableEq, Repr

/-- What is seen of a command by someone who gives it a limited time. -/
def Outcome.within (o : Outcome) (limit : Duration) : Seen :=
  match o with
  | .notStarted e => .notStarted e
  -- A command that ends just when the timer goes off has ended in time.
  | .ended lasting p => if lasting ≤ limit.timer then .ended p else .tookTooLong
  | .endless => .tookTooLong

end Subprocess
end NodeAdmission
