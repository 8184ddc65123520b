import SchemaPress.Files.Text
import SchemaPress.Json.Parser
import SchemaPress.Reference.Pointer

/-!
# The documents that references lead into

A reference consists of a location, which is empty for the document it stands in, and a fragment. The
`Library` of a schema knows the schema itself and, given a base directory, the schema files around
it: `Library.target` works out what a reference names, `Library.lookup` fetches it.

`Library.named` lists everything that some reference in some document names. The list is finite, and
following references ends because of it.
-/

namespace SchemaPress

/-- Why a reference cannot be resolved; each with the reference as it is written. -/
inductive ReferenceError where
  /-- It leads to another host. -/
  | remote (ref : String)
  /-- Its fragment is no JSON pointer. -/
  | fragment (ref : String)
  /-- It leads to a file, and there is no directory to start from. -/
  | noBase (ref : String)
  /-- It leads to nothing in its document. -/
  | dangling (ref : String)
  /-- Its document cannot be read. -/
  | unreadable (ref document cause : String)
  /-- Its document is not JSON. -/
  | malformed (ref document cause : String)
deriving DecidableEq, Repr

/-- The error in words. -/
def ReferenceError.message : ReferenceError → String
  | .remote ref => "Unsupported remote reference: " ++ ref
  | .fragment ref => "Unsupported reference fragment: " ++ ref
  | .noBase ref => "Cannot resolve file reference without a base path: " ++ ref
  | .dangling ref => "Unresolvable reference: " ++ ref
  | .unreadable ref document cause =>
    "Cannot read referenced schema " ++ document ++ " (" ++ ref ++ "): " ++ cause
  | .malformed ref document cause =>
    "Cannot parse referenced schema " ++ document ++ " (" ++ ref ++ "): " ++ cause

/-- Where a reference leads. -/
structure Target where
  /-- The document: empty for the root schema, the absolute path of a file otherwise. -/
  document : String
  /-- The tokens from the top of the document to the node. -/
  tokens : List String
deriving DecidableEq, Repr

namespace Target

/-- The spelling of a place, by document and spelled pointer. -/
def placeKey (document pointer : String) : String :=
  document ++ "#" ++ pointer

/-- The spelling of the target. -/
def key (target : Target) : String :=
  placeKey target.document (Pointer.text target.tokens)

/-- The name that a target without a title goes by: its last token, or else the name of its file up to
the first dot. -/
def fallbackName (target : Target) : String :=
  let token := target.tokens.getLast?.getD ""
  if token.isEmpty then
    String.ofList (Text.cutAt '.' (Path.ofText target.document).name.toList).1
  else token

end Target

/-- A schema and the files that its references may lead to. -/
structure Library where
  /-- The schema. -/
  root : Json
  /-- The directory that the schema's own references start from. -/
  base : Option Path
  /-- The file tree. -/
  tree : Tree

namespace Library

/-- Whether a location names another host. -/
def isRemote : List Char → Bool
  | ':' :: '/' :: '/' :: _ => true
  | _ :: rest => isRemote rest
  | [] => false

/-- The document at a location that is written in another document. -/
def locate (library : Library) (document location ref : String) : Except (Stop ReferenceError) String :=
  match library.base with
  | none => .error (.error (.noBase ref))
  | some base =>
    let origin := if document.isEmpty then base else (Path.ofText document).parent
    match library.tree.resolve (origin.join (Path.ofText location)) with
    | .ok place => .ok (Path.ofLocation place).text
    | .error cause => .error (.crash cause)

/-- What a reference that is written in a document names. -/
def target (library : Library) (document ref : String) : Except (Stop ReferenceError) Target := do
  let (location, fragment) := Text.cutAt '#' ref.toList
  if isRemote location then throw (.error (.remote ref))
  match Pointer.ofFragment? (fragment.getD []) with
  | none => throw (.error (.fragment ref))
  | some tokens =>
    if location.isEmpty then return ⟨document, tokens⟩
    else return ⟨← library.locate document (String.ofList location) ref, tokens⟩

/-- A failure to read a document, as it is reported. -/
def unread (ref document : String) : FileFailure → Stop ReferenceError
  | .crash cause => .crash cause
  | failure => .error (.unreadable ref document failure.message)

/-- A document that holds no value, as it is reported. -/
def misread (ref document : String) : Json.Misreading → Stop ReferenceError
  | .malformed failure => .error (.malformed ref document failure.message)
  | cause => .crash cause.toCrash

/-- A document, fetched because of a reference. -/
def load (library : Library) (document ref : String) : Except (Stop ReferenceError) Json :=
  if document.isEmpty then .ok library.root
  else do
    let text ← (library.tree.readText (Path.ofText document)).mapError (unread ref document)
    (Json.parse text).mapError (misread ref document)

/-- One step from a value by a token: an item of an array by its index, a member of an object by its
name. -/
def step (ref token : String) (value : Json) : Except (Stop ReferenceError) Json :=
  match value with
  | .arr items =>
    match Pointer.indexOf items.length token with
    | .index i =>
      match items[i]? with
      | some item => .ok item
      | none => .error (.error (.dangling ref))
    | .unreadable => .error (.crash .badValue)
    | .name => .error (.error (.dangling ref))
  | .obj members =>
    match Members.get? members token with
    | some member => .ok member
    | none => .error (.error (.dangling ref))
  | _ => .error (.error (.dangling ref))

/-- The node that a target names. -/
def lookup (library : Library) (target : Target) (ref : String) : Except (Stop ReferenceError) Json := do
  target.tokens.foldlM (fun value token => step ref token value)
    (← library.load target.document ref)

mutual
/-- The references in a value. -/
def refsIn : Json → List String
  | .arr items => refsInItems items
  | .obj members => refsInMembers members
  | _ => []

/-- The references in items. -/
def refsInItems : List Json → List String
  | [] => []
  | item :: rest => refsIn item ++ refsInItems rest

/-- The references in members; a text under `$ref` is one. -/
def refsInMembers : List (String × Json) → List String
  | [] => []
  | (name, value) :: rest =>
    (match value with
      | .str ref => if name = "$ref" then [ref] else []
      | _ => refsIn value) ++ refsInMembers rest
end

/-- Every document of the library, by its key. -/
def documents (library : Library) : List (String × Json) :=
  ("", library.root) :: library.tree.files.filterMap fun (place, bytes) => do
    let text ← String.fromUTF8? bytes
    let value ← (Json.parse (String.ofList (unifyLines text.toList))).toOption
    return ((Path.ofLocation place).text, value)

/-- Everything that some reference in some document names. -/
def named (library : Library) : List Target :=
  library.documents.flatMap fun (document, value) =>
    (refsIn value).filterMap fun ref => (library.target document ref).toOption

/-- The spellings of everything that some reference names. -/
def targets (library : Library) : List String :=
  (library.named.map Target.key).eraseDups

end Library

end SchemaPress
