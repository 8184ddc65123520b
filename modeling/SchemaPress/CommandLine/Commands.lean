import SchemaPress.CommandLine.Options
import SchemaPress.Release.Plugin
import SchemaPress.Text.ControlSequence

/-!
# The command line

`verify` checks that every schema is there; `prepare` verifies and then generates the artifacts. The
options override what the configuration file says.
-/

namespace SchemaPress.CommandLine

/-- What a run of the command line leaves, beside the files. -/
structure Outcome where
  /-- The status of the program. -/
  exitCode : Nat
  /-- What it printed. -/
  output : String := ""
  /-- What it complained about. -/
  errors : String := ""
  /-- The crash that it ended by. -/
  crash : Option Crash := none
deriving DecidableEq, Repr

/-- The name of the program. -/
def programName : String := "json-schema-release"

/-- A command of the program. -/
inductive Verb where
  | prepare
  | verify
deriving DecidableEq, Repr

/-! ### Options -/

/-- Shows what a command is for. -/
def helpSwitch : Switch :=
  { name := "--help", kind := .flag, help := "Show this message and exit." }

/-- Lets more be told about a run. -/
def verboseSwitch : Switch :=
  { name := "--verbose", letter := some "-v", kind := .flag, help := "Enable debug logging" }

/-- The file with the configuration. -/
def configSwitch : Switch :=
  { name := "--config", letter := some "-c", kind := .file, help := "JSON plugin configuration" }

/-- A schema. -/
def schemaSwitch : Switch :=
  { name := "--schema-location", letter := some "-s", help := "Schema file (repeatable)" }

/-- The version of the release. -/
def versionSwitch : Switch :=
  { name := "--next-version", letter := some "-n", required := true
    help := "Version of the release being prepared" }

/-- The directory of the artifacts. -/
def outpathSwitch : Switch :=
  { name := "--outpath", letter := some "-o", kind := .directory, help := "Output root directory" }

/-- The name of the TypeScript declarations. -/
def outputNameSwitch : Switch :=
  { name := "--output-name", help := "Base name of the TypeScript declaration file" }

/-- A language. -/
def languageSwitch : Switch :=
  { name := "--language", letter := some "-l", kind := .choice (Language.all.map Language.key)
    help := "Language to generate (repeatable, default: all)" }

/-- Whether TypeScript is compiled. -/
def compileSwitch : Switch :=
  { name := "--compile-ts", kind := .flag, help := "Compile the TypeScript sources with tsc" }

/-- The commands. -/
def verbs : List Verb := [.prepare, .verify]

/-- The name of a command. -/
def Verb.name : Verb → String
  | .prepare => "prepare"
  | .verify => "verify"

/-- What a command is for. -/
def Verb.help : Verb → String
  | .prepare => "Verify, then generate the artifacts of the selected languages."
  | .verify => "Check that every configured schema exists."

/-- The options of a command. -/
def Verb.switches : Verb → List Switch
  | .prepare => [configSwitch, schemaSwitch, versionSwitch, outpathSwitch, outputNameSwitch,
      languageSwitch, compileSwitch, helpSwitch]
  | .verify => [configSwitch, schemaSwitch, helpSwitch]

/-- The options in front of the command. -/
def globalSwitches : List Switch := [verboseSwitch, helpSwitch]

/-! ### Messages -/

/-- How the program is called, up to a command if there is one. -/
def callOf : Option Verb → String
  | none => programName
  | some verb => programName ++ " " ++ verb.name

/-- The line that shows the usage. -/
def usageLine (verb : Option Verb) : String :=
  "Usage: " ++ callOf verb ++ (if verb.isSome then " [OPTIONS]" else " [OPTIONS] COMMAND [ARGS]...") ++
    "\n"

/-- The value of an option in the list of options. -/
def valueName : ValueKind → String
  | .flag => ""
  | .text => " TEXT"
  | .file => " FILE"
  | .directory => " DIRECTORY"
  | .choice words => " [" ++ "|".intercalate words ++ "]"

/-- An option in the list of options. -/
def switchName (switch : Switch) : String :=
  (match switch.letter with
    | some letter => letter ++ ", "
    | none => "") ++ switch.name ++ valueName switch.kind

/-- A list of names with explanations beside them. -/
def table (title : String) (rows : List (String × String)) : String :=
  let width := (rows.map fun row => row.1.length).foldl max 0
  "\n" ++ title ++ ":\n" ++ String.join (rows.map fun (name, help) =>
    "  " ++ name ++ String.ofList (List.replicate (width + 2 - name.length) ' ') ++ help ++ "\n")

/-- What the program, or a command of it, is for. -/
def helpText (verb : Option Verb) : String :=
  let options := match verb with
    | some verb => verb.switches
    | none => globalSwitches
  let rows := options.map fun switch =>
    (switchName switch, switch.help ++ if switch.required then "  [required]" else "")
  usageLine verb ++
    (match verb with
      | some verb => "\n  " ++ verb.help ++ "\n"
      | none => "") ++
    table "Options" rows ++
    (if verb.isSome then "" else table "Commands" (verbs.map fun verb => (verb.name, verb.help)))

/-- The end of a run whose command line was not understood. -/
def misused (verb : Option Verb) (error : UsageError) : Outcome :=
  let usage := if error.showsUsage then
      usageLine verb ++ "Try '" ++ callOf verb ++ " --help' for help.\n\n"
    else ""
  { exitCode := 2, errors := usage ++ "Error: " ++ error.message ++ "\n" }

/-- The end of a run that crashed. -/
def crashed (cause : Crash) : Outcome :=
  { exitCode := 1, crash := some cause }

/-- The end of a run that failed as foreseen. -/
def failed (error : ReleaseError) : Outcome :=
  let details := if error.details.isEmpty then "" else "\n" ++ error.details
  { exitCode := 1, errors := "Error: " ++ error.headline ++ details ++ "\n" }

/-- The end of a run that did what it should. -/
def succeeded (output : String) : Outcome :=
  { exitCode := 0, output := output ++ "\n" }

/-- The end of a run that stopped. -/
def stopped : Stop ReleaseError → Outcome
  | .error cause => failed cause
  | .crash cause => crashed cause

/-! ### Running -/

/-- The configuration in a file. -/
def readConfig (tree : Tree) (directory : Location) (path : String) : Except Crash Config := do
  let text ← (tree.readText ((Path.ofLocation directory).child path)).mapError FileFailure.toCrash
  Config.ofJson (← (Json.parse text).mapError Json.Misreading.toCrash)

/-- The configuration that the options make. -/
def configOf (tree : Tree) (directory : Location) (settings : List Setting) :
    Except Crash Config := do
  let config ← match lastOf? settings configSwitch with
    | some path => readConfig tree directory path
    | none => pure {}
  let schemas := valuesOf settings schemaSwitch
  let config := if schemas.isEmpty then config
    else { config with schemaLocation := .arr (schemas.map .str) }
  let config := match lastOf? settings outpathSwitch with
    | some outpath => { config with outpath := .str outpath }
    | none => config
  let config := match lastOf? settings outputNameSwitch with
    | some name => { config with outputName := .str name }
    | none => config
  let languages := valuesOf settings languageSwitch
  let config := if languages.isEmpty then config
    else { config with
      selection := .only (Language.all.filter fun language => languages.contains language.key) }
  return if (lastOf? settings compileSwitch).isSome then { config with compileTs := .bool true }
    else config

/-- Runs the command `verify`. -/
def runVerify (tree : Tree) (directory : Location) (settings : List Setting) : Outcome :=
  match configOf tree directory settings with
  | .error cause => crashed cause
  | .ok config =>
    match Plugin.verify ⟨Path.ofLocation directory, false⟩ config tree with
    | .ok _ => succeeded "verified"
    | .error stop => stopped stop

/-- Runs the command `prepare`. -/
def runPrepare (tools : Tools) (tree : Tree) (directory : Location) (settings : List Setting) : Outcome × Tree :=
  let version := (lastOf? settings versionSwitch).getD ""
  match configOf tree directory settings with
  | .error cause => (crashed cause, tree)
  | .ok config =>
    match Plugin.verify ⟨Path.ofLocation directory, false⟩ config tree with
    | .error stop => (stopped stop, tree)
    | .ok plugin =>
      match (plugin.prepare tools (.ok config) (.ok ⟨some (.str version)⟩)).outcome tree with
      | (.ok _, tree) => (succeeded ("prepared " ++ version), tree)
      | (.error stop, tree) => (stopped stop, tree)

/-- Runs a command with its arguments. -/
def runVerb (tools : Tools) (tree : Tree) (directory : Location) (verb : Verb)
    (arguments : List String) : Outcome × Tree :=
  match parse verb.switches true arguments with
  | .error error => (misused verb error, tree)
  | .ok parsed =>
    if (lastOf? parsed.settings helpSwitch).isSome then
      ({ exitCode := 0, output := helpText verb }, tree)
    else
      match check tree directory verb.switches parsed with
      | .error (.error error) => (misused verb error, tree)
      | .error (.crash cause) => (crashed cause, tree)
      | .ok _ =>
        match verb with
        | .prepare => runPrepare tools tree directory parsed.settings
        | .verify => (runVerify tree directory parsed.settings, tree)

/-- Tells that there is no command of the first name. A name that looks like an option is first read
as one of the program's own options, so that the complaint is about the option. -/
def withoutVerb (name : String) (rest : List String) : Outcome :=
  match parse globalSwitches false (name :: rest) with
  | .error error => misused none error
  | .ok parsed =>
    if (lastOf? parsed.settings helpSwitch).isSome then { exitCode := 0, output := helpText none }
    else misused none (.noSuchCommand name (similarNames (verbs.map Verb.name) name))

/-- Runs the program in a directory, with all that it tells. -/
def runLoudly (tools : Tools) (tree : Tree) (directory : Location) (arguments : List String) :
    Outcome × Tree :=
  if arguments.isEmpty then ({ exitCode := 2, errors := helpText none }, tree)
  else
    match parse globalSwitches false arguments with
    | .error error => (misused none error, tree)
    | .ok parsed =>
      if (lastOf? parsed.settings helpSwitch).isSome then
        ({ exitCode := 0, output := helpText none }, tree)
      else
        match parsed.rest with
        | [] => (misused none .missingCommand, tree)
        | name :: rest =>
          match verbs.find? fun verb => verb.name = name with
          | some verb => runVerb tools tree directory verb rest
          | none => (withoutVerb name rest, tree)

/-- Runs the program in a directory. What it prints goes to no terminal, so it is printed plainly. -/
def run (tools : Tools) (tree : Tree) (directory : Location) (arguments : List String) :
    Outcome × Tree :=
  let (outcome, tree) := runLoudly tools tree directory arguments
  ({ outcome with output := Text.printed outcome.output, errors := Text.printed outcome.errors },
    tree)

end SchemaPress.CommandLine
