import SubnetRouter.CommandLine.Help
import SubnetRouter.CommandLine.Reader
import SubnetRouter.CommandLine.Run

/-!
# The program

Reads the command line, the environment and the files that the invocation may read, and prints
what running it gives.  The program knows no international domain names.
-/

namespace SubnetRouter

/-- The number of a system error, which may be given with either sign. -/
def systemCode (code : UInt32) : UInt32 :=
  if code < 0 - code then code else 0 - code

def FileFault.ofError : IO.Error → FileFault
  | .noFileOrDirectory .. => .notFound
  | .inappropriateType _ code details =>
    match systemCode code with
    | 20 => .notDirectory
    | 21 => .isDirectory
    | _ => .other details
  | .invalidArgument _ code details =>
    if systemCode code = 36 then .nameTooLong else .other details
  | error => .other error.toString

def fetch (path : String) : IO (String × Except FileFault ByteArray) := do
  try
    return (path, .ok (← IO.FS.readBinFile path))
  catch error =>
    return (path, .error (.ofError error))

/-- The variable of a name.  The system does not tell whether a value is Unicode. -/
def fetchVariable (name : String) : IO Variable := do
  match ← IO.getEnv name with
  | some value => return .text value
  | none => return .unset

/-- The files that have been fetched; there are no others. -/
def fetched (files : List (String × Except FileFault ByteArray)) : Files := fun path =>
  (files.lookup path).getD (.error .notFound)

end SubnetRouter

open SubnetRouter

def main (words : List String) : IO UInt32 := do
  match CommandLine.read words with
  | .error .help =>
    IO.println CommandLine.usage
    return UsageFault.help.exitCode
  | .error fault =>
    IO.eprintln ("error: " ++ fault.message ++ "\n\n" ++ CommandLine.usage)
    return fault.exitCode
  | .ok invocation =>
    let env : Environment := ⟨← fetchVariable "IPC_CONFIG", ← fetchVariable "IPC_NETWORK"⟩
    let files ← (invocation.paths env).mapM fetch
    match invocation.run .asciiOnly (fetched files) env with
    | .ok out =>
      IO.println out
      return 0
    | .error fault =>
      IO.eprintln ("Error: " ++ fault.message)
      return 1
