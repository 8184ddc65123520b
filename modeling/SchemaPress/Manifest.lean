import SchemaPress.Release.Crash

/-!
# The manifest of a crate

The manifest `Cargo.toml` of the crate that holds the Rust declarations. One that is there keeps
everything but the version of its package. One that cannot be read, or that has no package table, is
written anew.

Documents of TOML are read, changed and written by a library (`TomlKit`). Nothing is taken for granted about it
here: what it does with a text is its own affair.
-/

namespace SchemaPress

/-- What is put into a new document of TOML. -/
inductive TomlEntry where
  /-- A text. -/
  | text (text : String)
  /-- An array of texts. -/
  | texts (texts : List String)
  /-- A table with a header of its own. -/
  | table (entries : List (String × TomlEntry))
  /-- A table on one line. -/
  | inlineTable (entries : List (String × TomlEntry))

/-- A library for documents of TOML. -/
structure TomlKit where
  /-- Documents. -/
  Document : Type
  /-- The tables of documents. -/
  Table : Type
  /-- The document of these entries. -/
  build : List (String × TomlEntry) → Document
  /-- Reads a text. A text that is no TOML is an error; the library may also fail in other ways. -/
  parse : String → Except (Stop Unit) Document
  /-- The table under a key of a document; `none` if nothing is there, or no table. -/
  table? : Document → String → Except Crash (Option Table)
  /-- The document after a text was assigned to a key of a table of it. -/
  assign : Document → Table → String → String → Except Crash Document
  /-- The text of a document. -/
  text : Document → String

/-- A library that knows no documents. -/
instance : Inhabited TomlKit where
  default := {
    Document := Unit
    Table := Empty
    build := fun _ => ()
    parse := fun _ => .error (.error ())
    table? := fun _ _ => .ok none
    assign := fun _ table => table.elim
    text := fun _ => "" }

namespace Manifest

/-- The entries of the smallest manifest with which the declarations can be built. -/
def entries (name version : String) : List (String × TomlEntry) :=
  [("package", .table [("name", .text name), ("version", .text version), ("edition", .text "2021")]),
   ("lib", .table [("path", .text "src/lib.rs")]),
   ("dependencies", .table [
     ("serde", .inlineTable [("version", .text "1"), ("features", .texts ["derive"])]),
     ("serde_json", .text "1")])]

/-- The smallest manifest. -/
def fresh (kit : TomlKit) (name version : String) : String :=
  kit.text (kit.build (entries name version))

/-- The manifest to write where `existing` is the text of the one that is there. -/
def merge (kit : TomlKit) (existing : Option String) (name version : String) : Except Crash String :=
  match existing with
  | none => .ok (fresh kit name version)
  | some text =>
    match kit.parse text with
    | .error (.error ()) => .ok (fresh kit name version)
    | .error (.crash cause) => .error cause
    | .ok document => do
      match ← kit.table? document "package" with
      | none => return fresh kit name version
      | some package => return kit.text (← kit.assign document package "version" version)

end Manifest

end SchemaPress
