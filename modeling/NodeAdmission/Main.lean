import NodeAdmission.Admin.Run

/-!
# The command line

The operator's program on the files and variables of this machine. It brings no network of its own,
so every service is out of its reach: what it does with the arguments, with help and with files can
be tried, and every call ends as on a host without a network.
-/

namespace NodeAdmission

/-- The error of the operating system that an exception stands for. -/
def OsError.ofException : IO.Error → OsError
  | .noFileOrDirectory _ _ _ => .noSuchFile
  | .noSuchThing _ _ _ => .noSuchFile
  | .permissionDenied _ _ _ => .permissionDenied
  | .inappropriateType _ _ _ => .isDirectory
  | _ => .other 5

def machineDesk (coloured : Bool) : Admin.Desk IO :=
  { exchange := Http.unreachable
    load := fun path => do
      try return .ok (← IO.FS.readBinFile path).toList
      catch e => return .error (.ofException e)
    save := fun path bytes => do
      try
        IO.FS.writeBinFile path bytes.toByteArray
        return .ok ()
      catch e => return .error (.ofException e)
    coloured }

/-- The variables that the command line looks at. -/
def watched : List String :=
  ["CRYPTO_URL", "CRYPTO_CLIENT_NAME", "CLICOLOR", "CLICOLOR_FORCE", "NO_COLOR",
    "HTTP_PROXY", "http_proxy", "HTTPS_PROXY", "https_proxy", "ALL_PROXY", "all_proxy",
    "NO_PROXY", "no_proxy", "REQUEST_METHOD"]

end NodeAdmission

def main (args : List String) : IO UInt32 := do
  let values ← NodeAdmission.watched.mapM fun name => return (name, ← IO.getEnv name)
  let lookup := fun name => ((values.find? (·.1 = name)).map Prod.snd).join
  let terminal ← (← IO.getStdout).isTty
  let coloured := NodeAdmission.Admin.Style.wanted lookup terminal
  let report ← NodeAdmission.Admin.run (NodeAdmission.machineDesk coloured) lookup args
  IO.print report.stdout
  IO.eprint report.stderr
  return report.exit
