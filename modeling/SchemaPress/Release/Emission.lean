import SchemaPress.Files.Writer
import SchemaPress.Json.Parser
import SchemaPress.Json.Writer
import SchemaPress.Manifest
import SchemaPress.Name
import SchemaPress.SourceCheck.Verdict
import SchemaPress.Release.Compiler
import SchemaPress.Release.Config
import SchemaPress.Source.Render
import SchemaPress.Text.Quote

/-!
# Emitting the artifacts of a language

What each language gets from a release: declarations rendered from the catalog, the schema itself as
a constant, and the version in the manifest of its package. Artifacts are written one after the other
and stay when a later one fails.

What is not part of the program is given as its `Tools`: the library for manifests, and how a compiler is
started.
-/

namespace SchemaPress

/-- What a release uses that is not part of it. -/
structure Tools where
  /-- The library for documents of TOML. -/
  toml : TomlKit
  /-- How programs are started. -/
  start : Program.Start

/-- Tools with which no program is found. -/
instance : Inhabited Tools where
  default := {
    toml := default
    start := fun words => throw (.refused .notFound (words.head?.getD "")) }

/-- What the artifacts of a release are made of. -/
structure Release where
  /-- The options. -/
  config : Config
  /-- The declarations. -/
  catalog : Catalog
  /-- The primary schema as it was loaded. -/
  schema : Json
  /-- The directory of the artifacts. -/
  outpath : Path
  /-- The version of the release. -/
  version : String
  /-- What it is made with. -/
  tools : Tools

namespace Release

/-- The title of the primary schema. A title that is empty or zero in any way is no text, and names
are made of it as of an empty one. -/
def title (release : Release) : Except Crash String :=
  match release.schema with
  | .obj members =>
    match Members.get? members "title" with
    | some (.str title) => .ok title
    | some value => if value.isTruthy then .error .wrongKind else .ok ""
    | none => .error .unknownKey
  | _ => .error .wrongKind

/-- The declarations in a language. -/
def declarations (release : Release) (language : Language) : Task (Stop ReleaseError) String :=
  Task.ofExcept .crash (release.catalog.render language)

/-- A failure to write, as it is reported. -/
def writeStop (language : Language) (path : Path) : WriteFailure → Stop ReleaseError
  | .invalid reason => .error (.transpile language.key reason)
  | .file (.crash cause) => .crash cause
  | .file failure => .error (.write path.text failure.message)

/-- Whether a text may be written in a language: only Python is checked. A text that no file holds does not come
to be checked. -/
def check (language : Language) : Writer.Content → Except WriteFailure Unit
  | .plain text => if language = .python then SourceCheck.check text else .ok ()
  | .unencodable => .ok ()

/-- Writes an artifact. -/
def write (language : Language) (path : Path) (content : Writer.Content) :
    Task (Stop ReleaseError) Unit :=
  Task.wrapFailure (writeStop language path) (Writer.write path content (check language content))

/-- A value as the text of a file of its own. -/
def document (value : Json) : String :=
  value.render .indented ++ "\n"

/-- Whether anything is at a path. -/
def isThere (path : Path) : Task (Stop ReleaseError) Bool :=
  Task.look (fun failure => .crash failure.toCrash) (·.leadsTo (fun _ => true) path)

/-! ### TypeScript -/

/-- The schema as a module. -/
def typeScriptModule (name : String) (schema : Json) : String :=
  "export const " ++ name ++ " = " ++ schema.render .line ++ ";\n" ++
  "export default " ++ name ++ ";\n"

/-- The members of a package description, as they are read, with the version. -/
def versioned (members : RawMembers) (version : String) : RawMembers :=
  assign members (.ofString "version") (.str (.ofString version))

/-- A value that is read, as the text of a file of its own. -/
def rawDocument (value : Raw) : Writer.Content :=
  match value.toJson? with
  | some value => .plain (document value)
  | none => .unencodable

/-- A package description with the version; nothing if the text is no object. -/
def stamped? (version text : String) : Except Crash (Option Writer.Content) :=
  match Json.parseRaw text with
  | .ok (.obj members) => .ok (some (rawDocument (.obj (versioned members version))))
  | .ok _ => .ok none
  | .error (.malformed _) => .ok none
  | .error cause => .error cause.toCrash

/-- A package description with the version, if there is one that can be read. -/
def stampPackage? (tree : Tree) (path : Path) (version : String) :
    Except Crash (Option Writer.Content) :=
  match tree.readText path with
  | .error (.crash cause) => .error cause
  | .error _ => .ok none
  | .ok text => stamped? version text

/-- Stamps the version on the package description, if there is one. -/
def stampPackage (release : Release) : Task (Stop ReleaseError) Unit := do
  let path := release.outpath.child "package.json"
  if ← isThere path then
    match ← Task.look .crash (stampPackage? · path release.version) with
    | some content => write .typeScript path content
    | none => return ()

/-- The schema as a file and as a module, the declarations, the compiled module if wanted, and the
version. -/
def emitTypeScript (release : Release) : Task (Stop ReleaseError) Unit := do
  let name := Name.typeScriptConstant (← Task.ofExcept .crash release.title)
  let declarations ← release.declarations .typeScript
  let sources := release.outpath.child "src"
  let schema := sources.child "schema.json"
  let index := sources.child "index.ts"
  write .typeScript schema (.plain (document release.schema))
  write .typeScript index (.plain (typeScriptModule name release.schema))
  write .typeScript (release.outpath.child (release.config.outputName.display ++ ".d.ts"))
    (.plain declarations)
  if release.config.compileTs.isTruthy then
    let results := release.outpath.child "build"
    let command ← Task.ofExcept .crash release.config.compilerWords
    Compiler.compile release.tools.start command results index schema
    write .typeScript (results.child "index.d.ts") (.plain declarations)
  stampPackage release

/-! ### Go -/

/-- The schema as a constant, and the declarations. -/
def goSource (title : String) (schema : Json) (declarations : String) : String :=
  "// " ++ Source.notice ++ "\n\n" ++
  "package " ++ Name.goPackage title ++ "\n\n" ++
  "const " ++ Name.goRawConstant title ++ " = " ++ Text.goJsonQuote (schema.write .dense 0) ++
  "\n\n" ++ declarations

/-- One file with everything. -/
def emitGo (release : Release) : Task (Stop ReleaseError) Unit := do
  let title ← Task.ofExcept .crash release.title
  let declarations ← release.declarations .go
  write .go (release.outpath.child (Name.goPackage title ++ ".go"))
    (.plain (goSource title release.schema declarations))

/-! ### Rust -/

/-- The manifest to write at a path. A manifest that cannot be read is replaced. -/
def mergedManifest (kit : TomlKit) (tree : Tree) (path : Path) (name version : String) :
    Except Crash String :=
  match tree.readText path with
  | .error (.crash cause) => .error cause
  | .error _ => Manifest.merge kit none name version
  | .ok existing => Manifest.merge kit (some existing) name version

/-- The manifest and the declarations. -/
def emitRust (release : Release) : Task (Stop ReleaseError) Unit := do
  let declarations ← release.declarations .rust
  let name := Name.crate (← Task.ofExcept .crash release.title)
  let path := release.outpath.child "Cargo.toml"
  discard (isThere path)
  let manifest ← Task.look .crash (mergedManifest release.tools.toml · path name release.version)
  write .rust path (.plain manifest)
  write .rust ((release.outpath.child "src").child "lib.rs") (.plain declarations)

/-! ### Python -/

/-- The declarations. -/
def emitPython (release : Release) : Task (Stop ReleaseError) Unit := do
  write .python (release.outpath.child "index.py") (.plain (← release.declarations .python))

/-- The artifacts of a language. -/
def emit (release : Release) : Language → Task (Stop ReleaseError) Unit
  | .typeScript => release.emitTypeScript
  | .go => release.emitGo
  | .rust => release.emitRust
  | .python => release.emitPython

end Release

end SchemaPress
