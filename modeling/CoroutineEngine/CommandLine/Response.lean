import CoroutineEngine.CommandLine.Help
import CoroutineEngine.Scenario.Transcript

/-!
# What the program answers

From the arguments, the environment and the files to the lines that are printed and the code at the end.

Results:
* `respond_refused`: arguments that make no sense give code 2 and a hint.
-/

namespace CoroutineEngine.CommandLine

open CoroutineEngine.Configuration (Environment Files LayerError Overlay)

/-! ## Definitions -/

/-- The end of a run: its code, the lines printed, and the lines of complaint. -/
structure Response where
  code : UInt8
  output : List String
  complaints : List String
  deriving DecidableEq, Repr

/-- A run whose arguments make no sense. -/
def refusal : Response := ⟨2, [], [usage .program, "", "For more information, try '--help'."]⟩

/-- A run that went well. -/
def success (output complaints : List String) : Response := ⟨0, output, complaints⟩

/-- A run that failed, with the sentence that says at what, and the causes behind it. -/
def failure (notes : List String) (sentence : String) (causes : List String) : Response :=
  ⟨1, [], notes ++ ("Error: " ++ sentence)
    :: (if causes.isEmpty then [] else "" :: "Caused by:" :: causes.map ("    " ++ ·))⟩

/-- A run that a panic ended; the complaint starts with an empty line. -/
def panicked (output notes : List String) (message : String) : Response :=
  ⟨101, output, notes ++ ["", "panic: " ++ message]⟩

/-- The configuration file that counts: the one asked for, or the user's. -/
def wantedFile? (e : Environment) (file : Option String) : Option String :=
  file <|> Configuration.location? e

/-- The configuration under the arguments. -/
def configure (files : Files) (e : Environment) (file : Option String) (o : Overlay) :
    Except LayerError Configuration :=
  Configuration.layered
    (match file with
      | some path => Configuration.load (files path)
      | none => Configuration.loadUser files e)
    (e.lookup Configuration.stackSizeVariable) o

/-- What is said when there is no configuration. -/
def configurationFailure (file : Option String) : LayerError → Response
  | .file error =>
    match file with
    | some path => failure [] ("Failed to load config: " ++ path) [error.message]
    | none => failure [] "Failed to load user config" [error.message]
  | .environment error => failure [] "Invalid environment override" [error.message]
  | .outcome error => failure [] error.message []

/-- The lines that tell about the program and its host. -/
def notes (verbose : Bool) : List String :=
  if verbose then [programName ++ " version: " ++ programVersion, "Host: linux"] else []

/-- Carries out a command under a configuration. -/
def carryOut (command : Command) (c : Configuration) (verbose : Bool) : Response :=
  match command with
  | .demo s =>
    match s.onTerminal c.toSettings c.level with
    | (output, none) => success output (notes verbose)
    | (output, some message) => panicked output (notes verbose) message
  | .config =>
    match c.text? with
    | some _ => success c.fileLines (notes verbose)
    | none =>
      failure (notes verbose) "Failed to render config" [ConfigurationError.unwritable.message]
  | .version => success [versionLine] (notes verbose)

/-- Answers a command line. -/
def respond (files : Files) (e : Environment) (args : List String) : Response :=
  match parse args with
  | .refused => refusal
  | .version => success [versionLine] []
  | .help topic long => success (helpLines topic long) []
  | .run command file o =>
    match configure files e file o with
    | .ok c => carryOut command c o.verbose
    | .error error => configurationFailure file error

/-! ## Helpers -/

theorem respond_refused (files : Files) (e : Environment) (args : List String)
    (h : parse args = .refused) : respond files e args = refusal := by
  simp [respond, h]

end CoroutineEngine.CommandLine
