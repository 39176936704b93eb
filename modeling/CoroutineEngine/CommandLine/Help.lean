import CoroutineEngine.CommandLine.Arguments

/-!
# Help texts

What the program and its commands say about themselves. Only the command that runs a scenario has more to
say in its long form.
-/

namespace CoroutineEngine.CommandLine

/-- The name of the program. -/
def programName : String := "yieldfiber"

/-- The version of the program. -/
def programVersion : String := "0.1.0"

/-- The name and the version of the program. -/
def versionLine : String := programName ++ " " ++ programVersion

/-- The commands in the order of their listing. -/
def commands : List Topic := [.demo, .config, .version, .help]

/-- The word for a place. -/
def Topic.word : Topic → String
  | program => programName
  | demo => "demo"
  | config => "config"
  | version => "version"
  | help => "help"

/-- What a place is for. -/
def Topic.summary : Topic → String
  | program => programName
  | demo => "Run a canned coroutine scenario"
  | config => "Print the effective configuration"
  | version => "Print version information"
  | help => "Print this message or the help of the given subcommand(s)"

/-- A word and its description, the descriptions one below the other. -/
def listed (width : Nat) (word summary : String) : String :=
  "  " ++ word.pushn ' ' (width - word.length) ++ "  " ++ summary

/-- The options that every place knows, with their descriptions. -/
def commonOptions : List (String × String) :=
  [("    --config <FILE>", "Configuration file (defaults to ~/.config/yieldfiber/config.toml)"),
    ("    --stack-size <BYTES>", "Fiber stack size in bytes"),
    ("-v, --verbose", "Enable verbose output")]

/-- The option that asks for help; the hint tells of the other form. -/
def helpOption (hint : String) : String × String := ("-h, --help", "Print help" ++ hint)

/-- The option that asks for the version. -/
def versionOption : String × String := ("-V, --version", "Print version")

/-- Options on a line each. -/
def optionLines (options : List (String × String)) : List String :=
  let width := options.foldl (fun n (word, _) => max n word.length) 0
  "Options:" :: options.map fun (word, summary) => listed width word summary

/-- Options with their descriptions on a line of their own. -/
def spacedOptionLines (options : List (String × String)) : List String :=
  "Options:" :: List.intercalate [""]
    (options.map fun (word, summary) => ["  " ++ word, "          " ++ summary])

/-- The commands on a line each. -/
def commandLines : List String :=
  let width := commands.foldl (fun n topic => max n topic.word.length) 0
  "Commands:" :: commands.map fun topic => listed width topic.word topic.summary

/-- How a place is called. -/
def usage (topic : Topic) : String :=
  "Usage: " ++ programName ++ match topic with
    | .program => " [OPTIONS] <COMMAND>"
    | .demo => " demo [OPTIONS] <KIND>"
    | .config => " config [OPTIONS]"
    | .version => " version [OPTIONS]"
    | .help => " help [COMMAND]..."

/-- The scenarios in a short form. -/
def scenarioNames : String := ", ".intercalate (Scenario.all.map (·.name))

/-- The scenarios with what they show. -/
def scenarioLines : List String :=
  let width := Scenario.all.foldl (fun n s => max n s.name.length) 0
  Scenario.all.map fun s =>
    "          - " ++ (s.name ++ ":").pushn ' ' (width - s.name.length) ++ " " ++ s.summary

/-- The argument of the command that runs a scenario. -/
def scenarioArgument (long : Bool) : List String :=
  if long then
    ["Arguments:", "  <KIND>", "          Scenario to run", "", "          Possible values:"]
      ++ scenarioLines
  else ["Arguments:", "  <KIND>  Scenario to run [possible values: " ++ scenarioNames ++ "]"]

/-- The argument of the command that prints help. -/
def helpArgument : List String :=
  ["Arguments:", "  [COMMAND]...  Print help for the subcommand(s)"]

/-- The paragraphs of a help text. -/
def paragraphs (topic : Topic) (long : Bool) : List (List String) :=
  match topic, long with
  | .program, _ => [commandLines, optionLines (commonOptions ++ [helpOption "", versionOption])]
  | .demo, false =>
    [scenarioArgument false, optionLines (commonOptions ++ [helpOption " (see more with '--help')"])]
  | .demo, true =>
    [scenarioArgument true,
      spacedOptionLines (commonOptions ++ [helpOption " (see a summary with '-h')"])]
  | .config, _ | .version, _ => [optionLines (commonOptions ++ [helpOption ""])]
  | .help, _ => [helpArgument]

/-- The lines of a help text. -/
def helpLines (topic : Topic) (long : Bool) : List String :=
  List.intercalate [""] ([topic.summary] :: [usage topic] :: paragraphs topic long)

end CoroutineEngine.CommandLine
