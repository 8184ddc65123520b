import SchemaPress.Files.Text
import SchemaPress.Json.Parser
import SchemaPress.Release.Error
import SchemaPress.Text.Basic

/-!
# Loading schemas

The configured locations are resolved against a directory and their files read. Every location is
tried before anything is reported, so one error lists every file that cannot be used. A file that is no
text, or holds an integer that is too long, is not foreseen.
-/

namespace SchemaPress

/-- The place that a location leads to, seen from a directory. -/
def resolveLocation (tree : Tree) (directory : Path) (location : Json) : Except Crash Location :=
  match location with
  | .str text => tree.resolve (directory.child text)
  | _ => .error .wrongKind

/-- The places that locations lead to. -/
def resolveLocations (tree : Tree) (directory : Path) (locations : List Json) :
    Except Crash (List Location) :=
  locations.mapM (resolveLocation tree directory)

/-- What comes of one schema file. -/
inductive Loaded where
  /-- An object. -/
  | schema (members : RawMembers)
  /-- A file that cannot be read. -/
  | unreadable (failure : String)
  /-- A file that does not hold an object. -/
  | unusable (failure : String)

namespace Loaded

/-- The failure to read. -/
def unreadable? : Loaded → Option String
  | .unreadable failure => some failure
  | _ => none

/-- The failure to find an object. -/
def unusable? : Loaded → Option String
  | .unusable failure => some failure
  | _ => none

/-- The schema. -/
def schema? : Loaded → Option Raw
  | .schema members => some (.obj members)
  | _ => none

end Loaded

/-- Loads the schema at a place. -/
def loadSchema (tree : Tree) (place : Location) : Except Crash Loaded :=
  let path := Path.ofLocation place
  let named (failure : String) : String := path.text ++ ": " ++ failure
  match tree.readText path with
  | .error (.crash cause) => .error cause
  | .error failure => .ok (.unreadable (named failure.message))
  | .ok text =>
    match Json.parseRaw text with
    | .error (.malformed failure) => .ok (.unusable (named failure.message))
    | .error cause => .error cause.toCrash
    | .ok (.obj members) => .ok (.schema members)
    | .ok value =>
      .ok (.unusable (named ("schema must be a JSON object, got " ++ value.kindName)))

/-- Loads the schemas of all locations, in their order. -/
def loadSchemas (tree : Tree) (directory : Path) (locations : List Json) :
    Except (Stop ReleaseError) (List Raw) := do
  let places ← (resolveLocations tree directory locations).mapError .crash
  let loaded ← (places.mapM (loadSchema tree)).mapError .crash
  let unreadable := loaded.filterMap Loaded.unreadable?
  let unusable := loaded.filterMap Loaded.unusable?
  if !unusable.isEmpty then throw (.error (.schemaParse (unreadable ++ unusable)))
  if !unreadable.isEmpty then throw (.error (.schemaRead unreadable))
  return loaded.filterMap Loaded.schema?

/-- Whether a schema that is read has a title that says anything. -/
def isTitled (schema : Raw) : Bool :=
  match schema.get? "title" with
  | some (.str title) => !title.isBlank
  | _ => false

end SchemaPress
