import NodeAdmission.OsError
import NodeAdmission.Text.Pieces

/-!
# Paths

A path leads from the root, or from where the program is, through directories to a file. What there
is on the way is given as a function from plain paths, which have no empty names and no `.` or `..`.
The first name that cannot be followed decides the error.

* `resolve` — where a path leads, whether or not there is something.
* `toRead` — the file that is read at a path, which has to be there.
* `toWrite` — the file that is written at a path, whose directory has to be there.
-/

namespace NodeAdmission.Path

inductive Entry where
  | directory
  | program
  | file
deriving DecidableEq, Repr

structure Goal where
  /-- The plain path. -/
  path : String
  /-- What is there, if anything is. -/
  entry : Option Entry
deriving DecidableEq, Repr

/-- The longest name of a file, in bytes. -/
def nameLimit : Nat := 255

/-- The longest path, in bytes. -/
def pathLimit : Nat := 4095

/-- An error of a name or path that is longer than the system takes. -/
def nameTooLong : OsError := .ofCode 36

/-- An error of a path that goes on behind a file. -/
def notDirectory : OsError := .ofCode 20

/-- The plain path below a root, from the names on the way, the last one first. -/
def join (root : String) (way : List String) : String :=
  way.foldr (fun name path => path ++ "/" ++ name) root

/-- Follows names. Every name but the last one has to be a directory's. -/
def follow (entry : (path : String) → Option Entry) (root : String) (way : List String) :
    (names : List String) → Except OsError Goal
  | [] => .ok ⟨join root way, entry (join root way)⟩
  | name :: names =>
    match entry (join root way) with
    | none => .error .noSuchFile
    | some .directory =>
      if name = "" || name = "." then follow entry root way names
      -- Above the root is the root.
      else if name = ".." then follow entry root way.tail names
      else if name.utf8ByteSize > nameLimit then .error nameTooLong
      else follow entry root (name :: way) names
    | some _ => .error notDirectory

def resolve (entry : (path : String) → Option Entry) (path : String) : Except OsError Goal :=
  if path.utf8ByteSize > pathLimit then .error nameTooLong
  else
    match (Text.pieces '/' path.toList).map String.ofList with
    -- A slash at the front, unless the path is empty and leads nowhere.
    | "" :: names => if path = "" then .error .noSuchFile else follow entry "" [] names
    | names => follow entry "." [] names

/-- The plain path of the file that is read at a path. -/
def toRead (entry : (path : String) → Option Entry) (path : String) : Except OsError String :=
  match resolve entry path with
  | .error e => .error e
  | .ok ⟨_, none⟩ => .error .noSuchFile
  | .ok ⟨_, some .directory⟩ => .error .isDirectory
  | .ok ⟨plain, _⟩ => .ok plain

/-- The directory that a path names a file of, as a path to the directory itself. -/
def directoryOf (path : String) : String :=
  let named := path.toList.reverse.dropWhile (· = '/')
  String.ofList ((named.dropWhile (· ≠ '/')).reverse ++ ['.'])

/-- The plain path of the file that is written at a path, which there need not be before. A slash at
the end asks for a directory, whatever there is. -/
def toWrite (entry : (path : String) → Option Entry) (path : String) : Except OsError String :=
  if path.toList.getLast? = some '/' then
    if path.utf8ByteSize > pathLimit then .error nameTooLong
    else (resolve entry (directoryOf path)).bind fun _ => .error .isDirectory
  else
    match resolve entry path with
    | .error e => .error e
    | .ok ⟨_, some .directory⟩ => .error .isDirectory
    | .ok ⟨plain, _⟩ => .ok plain

end NodeAdmission.Path
