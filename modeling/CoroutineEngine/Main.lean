import CoroutineEngine.CommandLine.Response

/-!
# The program

Reads the environment and the one file that the arguments ask for, and prints the answer.
-/

namespace CoroutineEngine

/-- The variables that are looked at. -/
def environmentVariables : List String :=
  ["XDG_CONFIG_HOME", "HOME", "APPDATA", Configuration.stackSizeVariable]

/-- The environment of the process, as far as it is looked at. -/
def processEnvironment : IO Configuration.Environment := do
  environmentVariables.filterMapM fun name => do
    return (← IO.getEnv name).map (name, ·)

/-- What a file of the system holds. -/
def readContent (path : String) : IO (Except StorageFault Content) := do
  try
    return .ok (.ofBytes (← IO.FS.readBinFile path))
  catch e =>
    match e with
    | .noFileOrDirectory .. => return .error .notFound
    | .inappropriateType _ 21 _ => return .error .isDirectory
    | .inappropriateType .. => return .error .notDirectory
    | .invalidArgument _ 22 _ => return .error .nulInPath
    | .invalidArgument .. => return .error .nameTooLong
    | e => return .error (.other (toString e))

/-- The files that a command line asks for. -/
def processFiles (e : Configuration.Environment) (args : List String) : IO Configuration.Files := do
  match CommandLine.parse args with
  | .run _ file _ =>
    match CommandLine.wantedFile? e file with
    | some path =>
      let content ← readContent path
      return fun _ => content
    | none => return fun _ => .error .notFound
  | _ => return fun _ => .error .notFound

end CoroutineEngine

open CoroutineEngine

/-- Runs the program. -/
def main (args : List String) : IO UInt32 := do
  let e ← processEnvironment
  let r := CommandLine.respond (← processFiles e args) e args
  for line in r.output do
    IO.println line
  for line in r.complaints do
    IO.eprintln line
  return r.code.toUInt32
