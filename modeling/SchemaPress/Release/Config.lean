import SchemaPress.Json.Basic
import SchemaPress.Release.Crash
import SchemaPress.Source.Basic
import SchemaPress.Text.Basic

/-!
# Configuration and context of a release

The host of a release hands both over as JSON. A configuration takes the keys that it knows, in the
host's spelling (`outputName`) or in its own (`output_name`), and ignores others; values are kept as
they come and looked at where they are used, so a value of the wrong kind is noticed only there.
-/

namespace SchemaPress

/-- Which languages a configuration selects. -/
inductive Selection where
  /-- Nothing is said: every language. -/
  | all
  /-- The languages in the list. -/
  | only (languages : List Language)
  /-- The setting is not an object; asking it about a language is a crash. -/
  | malformed
deriving DecidableEq, Repr

/-- The languages of a selection, in generation order. -/
def Selection.languages : Selection → Except Crash (List Language)
  | .all => .ok Language.all
  | .only languages => .ok (Language.all.filter languages.contains)
  | .malformed => .error .noSuchPart

/-- The options of a release. -/
structure Config where
  /-- One schema path or an ordered list of them; the first one is the primary schema. -/
  schemaLocation : Json := .null
  /-- The output directory; the working directory when unset. -/
  outpath : Json := .null
  /-- The base name of the TypeScript declaration file. -/
  outputName : Json := .str "generated-typings"
  /-- The languages to generate. -/
  selection : Selection := .all
  /-- Whether to run the TypeScript compiler. -/
  compileTs : Json := .bool false
  /-- The command of the TypeScript compiler, as a list of words. -/
  tscCommand : Json := .arr [.str "tsc"]
  /-- Whether a setting took the place of the operation that exports the configuration. -/
  exportHidden : Bool := false
  /-- Whether a setting took the place of the operation that lists the selected languages. -/
  selectionHidden : Bool := false

namespace Config

/-- The configured schema locations; empty texts and other values that say nothing are left out. -/
def schemaLocations (config : Config) : Except Crash (List Json) :=
  match config.schemaLocation with
  | .null => .ok []
  | .str "" => .ok []
  | .str location => .ok [.str location]
  | value =>
    match value.elements? with
    | some locations => .ok (locations.filter Json.isTruthy)
    | none => .error .wrongKind

/-- The selection that an object of flags makes. -/
def selectionOf (flags : Members) : Selection :=
  .only (Language.all.filter fun language => ((flags.get? language.key).map Json.isTruthy).getD false)

/-- Takes one setting. The names of the operations of a configuration are settings too: setting one
hides the operation, except that the list of locations cannot be hidden. That it is there is found out by
working it out. -/
def set (config : Config) (key : String) (value : Json) : Except Crash Config :=
  match key with
  | "schemaLocation" | "schema_location" => .ok { config with schemaLocation := value }
  | "outpath" => .ok { config with outpath := value }
  | "outputName" | "output_name" => .ok { config with outputName := value }
  | "languages" =>
    match value with
    | .obj flags => .ok { config with selection := selectionOf flags }
    | .null => .ok { config with selection := .all }
    | _ => .ok { config with selection := .malformed }
  | "compileTs" | "compile_ts" => .ok { config with compileTs := value }
  | "tscCommand" | "tsc_command" =>
    match value with
    | .str command => .ok { config with tscCommand := .arr ((Text.splitBlank command).map .str) }
    | _ => .ok { config with tscCommand := value }
  | "to_dict" => .ok { config with exportHidden := true }
  | "selected_languages" => .ok { config with selectionHidden := true }
  | "schema_locations" => do
    discard config.schemaLocations
    throw .noSuchPart
  | _ => .ok config

/-- The configuration that a host's settings make, in their order. -/
def ofJson : Json → Except Crash Config
  | .obj settings => settings.foldlM (fun config (key, value) => config.set key value) {}
  | _ => .error .noSuchPart

/-- The languages to generate, in generation order. -/
def selectedLanguages (config : Config) : Except Crash (List Language) :=
  if config.selectionHidden then .error .wrongKind else config.selection.languages

/-- The words of the compiler command. -/
def compilerWords (config : Config) : Except Crash (List Json) :=
  match config.tscCommand.elements? with
  | some words => .ok words
  | none => .error .wrongKind

/-- The configuration in the host's spelling. -/
def toJson (config : Config) : Except Crash Json := do
  if config.exportHidden then throw .wrongKind
  let languages ← match config.selection with
    | .all => pure Json.null
    | selection => do
      let selected ← selection.languages
      pure (.obj (Language.all.map fun language =>
        (language.key, .bool (selected.contains language))))
  let command ← config.compilerWords
  return .obj [
    ("schemaLocation", config.schemaLocation),
    ("outpath", config.outpath),
    ("outputName", config.outputName),
    ("languages", languages),
    ("compileTs", config.compileTs),
    ("tscCommand", .arr command)]

end Config

/-- What a release knows about the version to come. -/
structure ReleaseContext where
  /-- The version that the host gave, whatever it is; `none` when there is no next release. -/
  nextVersion : Option Json := none

namespace ReleaseContext

/-- The context in a host's JSON. A value that says nothing is an empty context. -/
def ofJson (value : Json) : Except Crash ReleaseContext :=
  if !value.isTruthy then .ok {}
  else
    match value with
    | .obj members =>
      match Members.get? members "nextRelease" with
      | some (.obj release) => .ok ⟨some ((Members.get? release "version").getD .null)⟩
      | _ => .ok {}
    | _ => .error .noSuchPart

/-- The version without the blanks around it; `none` when there is no text left. -/
def version (context : ReleaseContext) : Option String :=
  match context.nextVersion with
  | some (.str text) =>
    let version := Text.strip text
    if version.isEmpty then none else some version
  | _ => none

end ReleaseContext

end SchemaPress
