import SchemaPress.Declaration.Analysis
import SchemaPress.Reference.Inline
import SchemaPress.Release.Emission
import SchemaPress.Release.Loading

/-!
# Verification and preparation

A release host first verifies that every schema is there and then prepares the artifacts. A plugin
prepares nothing before it has verified once; whether it has is all that it remembers.
-/

namespace SchemaPress

/-- A plugin of a release host. -/
structure Plugin where
  /-- The directory that schema locations and the output directory are relative to. -/
  directory : Path
  /-- Whether a verification has succeeded. -/
  verified : Bool := false

/-- The configuration in a host's JSON; a value that says nothing leaves everything unset. -/
def Config.ofHost (settings : Json) : Except Crash Config :=
  if settings.isTruthy then Config.ofJson settings else .ok {}

namespace Plugin

/-- The plugin after it has checked that every configured schema is there. -/
def verify (plugin : Plugin) (config : Config) (tree : Tree) :
    Except (Stop ReleaseError) Plugin := do
  let locations ← config.schemaLocations.mapError .crash
  if locations.isEmpty then throw (.error .schemaLocation)
  let places ← (resolveLocations tree plugin.directory locations).mapError .crash
  let missing := places.filter fun place => !tree.hasFile (Path.ofLocation place)
  if !missing.isEmpty then
    throw (.error (.noDocument (missing.map fun place => (Path.ofLocation place).text)))
  return { plugin with verified := true }

/-- The directory of the artifacts. -/
def outpath (plugin : Plugin) (config : Config) : Except Crash Path :=
  if config.outpath.isTruthy then
    match config.outpath with
    | .str text => .ok (plugin.directory.child text)
    | _ => .error .wrongKind
  else .ok plugin.directory

/-- A schema that is read, without halves of surrogate pairs. -/
def narrow (schema : Raw) : Except (Stop ReleaseError) Json :=
  match schema.toJson? with
  | some schema => .ok schema
  | none => .error (.crash .halfPair)

/-- Inlines the references of the schema that is read at a place. -/
def inlineAt (tree : Tree) (place : Location) (schema : Raw) : Except (Stop ReleaseError) Json := do
  match Library.dereference ⟨← narrow schema, some (Path.ofLocation place).parent, tree⟩ with
  | .ok value => .ok value
  | .error (.error cause) =>
    .error (.error (.dereference ((Path.ofLocation place).text ++ ": " ++ cause.message)))
  | .error (.crash cause) => .error (.crash cause)

/-- Loads the schemas at the locations; the first one, which has to have a title, and the
declarations of all of them. -/
def analyze (plugin : Plugin) (locations : List Json) (tree : Tree) :
    Except (Stop ReleaseError) (Json × Catalog) := do
  let schemas ← loadSchemas tree plugin.directory locations
  let places ← (resolveLocations tree plugin.directory locations).mapError .crash
  let primary := schemas.head?.getD .null
  if !isTitled primary then
    throw (.error (.noTitle (Path.ofLocation (places.head?.getD [])).text))
  let inlined ← (places.zip schemas).mapM fun (place, schema) => inlineAt tree place schema
  match Analysis.analyze inlined with
  | .ok catalog => return (← narrow primary, catalog)
  | .error (.error cause) => throw (.error (.transpile "schema" cause.message))
  | .error (.crash cause) => throw (.crash cause)

/-- Generates the artifacts of the selected languages. -/
def prepare (plugin : Plugin) (tools : Tools) (readConfig : Except Crash Config)
    (readContext : Except Crash ReleaseContext) : Task (Stop ReleaseError) Unit := do
  if !plugin.verified then throw (.error .notVerified)
  let context ← Task.ofExcept .crash readContext
  match context.version with
  | none => throw (.error .noVersion)
  | some version => do
    let config ← Task.ofExcept .crash readConfig
    let outpath ← Task.ofExcept .crash (plugin.outpath config)
    let unwritten (failure : FileFailure) : Stop ReleaseError :=
      match failure with
      | .crash cause => .crash cause
      | failure => .error (.write outpath.text failure.message)
    Task.wrapFailure unwritten (ensureDirectory (outpath.child "src"))
    let locations ← Task.ofExcept .crash config.schemaLocations
    if locations.isEmpty then throw (.error .schemaLocation)
    let (schema, catalog) ← Task.look id (plugin.analyze locations)
    let release : Release := { config, catalog, schema, outpath, version, tools }
    (← Task.ofExcept .crash config.selectedLanguages).forM release.emit

end Plugin

end SchemaPress
