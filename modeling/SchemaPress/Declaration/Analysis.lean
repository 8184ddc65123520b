import SchemaPress.Declaration.Basic
import SchemaPress.Name
import SchemaPress.Schema.Restrict
import SchemaPress.Text.Basic

/-!
# From schemas to declarations

The analysis walks dereferenced schemas and lifts every object, enum and union in them to a
declaration of its own. A declaration is appended once everything in it is declared, so the list is
in dependency order, back edges apart.

Schemas of one structure share a declaration: `State.known` maps the structure text of a schema to
the name of its declaration. A name is reserved before the parts of the schema are walked, so that
the outermost schema gets the plain name and inner ones of the same title get a counter.

A back edge that dereferencing left behind carries the title of the schema it leads to; it is looked
for among the declarations that are being built, innermost first.

The walk ends because each step goes to a schema of smaller depth, or folds an `allOf`, or restricts
a list of types (`SchemaPress.Schema.Depth`).
-/

namespace SchemaPress

/-- Why a schema cannot be turned into declarations. -/
inductive AnalysisError where
  /-- The schema of this index is no object. -/
  | notObject (index : Nat)
  /-- The values of the enum of this name are no list. -/
  | enumNotList (name : String)
deriving DecidableEq, Repr

/-- The error in words. -/
def AnalysisError.message : AnalysisError → String
  | .notObject index => "Schema #" ++ toString index ++ " is not an object"
  | .enumNotList name => "enum of " ++ name ++ " must be a list"

namespace Analysis

/-- What is known in the course of an analysis. -/
structure State where
  /-- The finished declarations, in order. -/
  declarations : Catalog := []
  /-- All reserved names. -/
  names : List String := []
  /-- The names of declarations by the structure of their schemas. -/
  known : List (String × String) := []
  /-- Titles and names of the declarations being built, innermost first. -/
  building : List (Json × String) := []

/-- A step of the analysis. -/
abbrev Run (α : Type) : Type := StateT State (Except (Stop AnalysisError)) α

/-- Passes a crash on. -/
def orCrash {α : Type} (result : Except Crash α) : Run α :=
  match result with
  | .ok value => pure value
  | .error cause => throw (.crash cause)

/-- What the schema says about itself, on one line. -/
def descriptionOf (schema : Json) : String :=
  match schema.get? "description" with
  | some (.str text) => " ".intercalate (Text.splitBlank text)
  | _ => ""

/-- The name for a title and a hint at what the schema is used for: the first of the two that has
words, or `Type`. A hint that is no text is refused. -/
def baseName (title hint : Json) : Except Crash String :=
  let name := match title with
    | .str text => Name.ofType text
    | _ => ""
  if name.isEmpty then
    match hint with
    | .str text => .ok (Name.orElse (Name.ofType text) "Type")
    | _ => .error .wrongKind
  else .ok name

/-- Reserves a name for a title and a hint. -/
def reserve (title hint : Json) : Run String := do
  let base ← orCrash (baseName title hint)
  let state ← get
  let name := Name.fresh state.names base
  set { state with names := name :: state.names }
  return name

/-- The name of the declaration for this structure, if there is one or it is being built. -/
def nameOf? (structureText : String) : Run (Option String) := do
  return (← get).known.lookup structureText

/-- Makes the name of a structure known. -/
def learn (structureText name : String) : Run Unit :=
  modify fun state => { state with known := (structureText, name) :: state.known }

/-- Appends a declaration. -/
def declare (declaration : Declaration) : Run Unit :=
  modify fun state => { state with declarations := state.declarations ++ [declaration] }

/-- What to do about a schema that needs a declaration. -/
inductive Entrance where
  /-- Refer to the declaration of this name. -/
  | known (name : String)
  /-- Build the declaration under this name. -/
  | fresh (name : String)

/-- Looks for the declaration of a schema, or starts to build it. -/
def enter (schema : Schema) (hint : Json) : Run Entrance := do
  let key ← orCrash schema.structureText
  match ← nameOf? key with
  | some name => return .known name
  | none =>
    let name ← reserve schema.title hint
    learn key name
    modify fun state => { state with building := (schema.title, name) :: state.building }
    return .fresh name

/-- Finishes the declaration of a schema. -/
def leave (schema : Schema) (name : String) (shape : Shape) : Run TypeRef := do
  modify fun state => { state with building := state.building.drop 1 }
  declare ⟨name, descriptionOf (.obj schema.members), shape⟩
  return .named name false

/-- The last of the pieces of a text between slashes. -/
def lastPiece (text : String) : String :=
  String.ofList ((Text.pieces '/' text.toList).getLast?.getD [])

/-- The name that a back edge leads to. -/
def backEdgeName (schema : Schema) (ref : String) : Run String := do
  match (← get).building.find? fun (title, _) => title.equal schema.title with
  | some (_, name) => return name
  | none => orCrash (baseName schema.title (.str (lastPiece ref)))

/-- The names that a schema requires, which may not be containers. -/
def requiredNames (schema : Schema) : Except Crash (List Json) := do
  let names ← Schema.ownElements (schema.get? "required")
  if names.all fun name => (PropertyName.ofJson? name).isSome then return names
  else throw .wrongKind

/-- The properties of a schema, which have to be an object here. -/
def propertiesOf (schema : Schema) : Except Crash PropertyTable :=
  match schema.table with
  | some table => .ok table
  | none =>
    match schema.get? "properties" with
    | some (.obj members) => .ok (PropertyTable.ofMembers members)
    | _ => .error .noSuchPart

/-- The values of an enum. -/
def enumValues (schema : Schema) (name : String) : Except (Stop AnalysisError) (List Json) :=
  match schema.get? "enum" with
  | some (.arr values) => .ok values
  | some _ => .error (.error (.enumNotList name))
  | none => .ok [(schema.get? "const").getD .null]

/-- The alternatives of a schema: those of `oneOf` if it says anything, those of `anyOf` otherwise. -/
def alternatives (schema : Schema) : Except Crash (List Json) :=
  match schema.get? "oneOf" with
  | some value =>
    if value.isTruthy then Schema.elementsOf value else Schema.ownElements (schema.get? "anyOf")
  | none => Schema.ownElements (schema.get? "anyOf")

/-- Adds a variant unless it is there. -/
def addVariant (variants : List TypeRef) (variant : TypeRef) : List TypeRef :=
  if variants.any (variant.same ·) then variants else variants ++ [variant]

/-! ### The parts of a schema are lower than the schema is deep -/

theorem height_le_of_propertiesOf {schema : Schema} {table : PropertyTable}
    (h : propertiesOf schema = .ok table) : table.height ≤ schema.depth := by
  unfold propertiesOf at h
  split at h
  · rename_i rows ht
    cases h
    simp only [Schema.depth, ht]
    omega
  · split at h
    · rename_i members hp
      cases h
      have := Schema.height_le_depth hp rfl
      rw [Json.height] at this
      refine PropertyTable.height_le fun name value hm => ?_
      obtain ⟨⟨key, v⟩, hv, heq⟩ := List.mem_map.1 hm
      cases heq
      have := Json.height_le_of_mem_members hv
      omega
    · cases h

theorem height_le_of_elementsOf {value : Json} {elements : List Json}
    (h : Schema.elementsOf value = .ok elements) : Json.heightItems elements ≤ value.height := by
  unfold Schema.elementsOf at h
  split at h
  · rename_i he
    cases h
    exact Json.heightItems_le fun element hm => Json.height_le_of_mem_elements he hm
  · cases h

theorem height_le_of_alternatives {schema : Schema} {options : List Json}
    (h : alternatives schema = .ok options) : Json.heightItems options ≤ schema.depth := by
  have own : ∀ {name : String}, Schema.leadsOn name = true →
      Schema.ownElements (schema.get? name) = .ok options →
      Json.heightItems options ≤ schema.depth := by
    intro name hl h
    unfold Schema.ownElements at h
    split at h
    · rename_i value hv
      split at h
      · exact Nat.le_trans (height_le_of_elementsOf h) (Schema.height_le_depth hv hl)
      · cases h; simp [Json.heightItems]
    · cases h; simp [Json.heightItems]
  unfold alternatives at h
  split at h
  · rename_i value hv
    split at h
    · exact Nat.le_trans (height_le_of_elementsOf h) (Schema.height_le_depth hv rfl)
    · exact own rfl h
  · exact own rfl h

/-! ### The walk -/

/-- A hint at the items of a list. -/
def itemHint (hint : Json) : Json :=
  .str (hint.display ++ " Item")

mutual
/-- The type of a value of a schema. What is no object says nothing. -/
def typeRef (value hint : Json) : Run TypeRef :=
  match value with
  | .obj members => schemaRef ⟨members, none⟩ hint
  | _ => pure .any
termination_by (2 * value.height, 0, 0, 0)
decreasing_by
  have := Schema.depth_lt_height members
  simp only [Prod.lex_def]
  omega

/-- The type of an object schema. -/
def schemaRef (schema : Schema) (hint : Json) : Run TypeRef :=
  match schema.get? "$ref" with
  -- A reference that is left in an inlined schema leads back into itself.
  | some (.str ref) => do return .named (← backEdgeName schema ref) true
  | _ =>
    if schema.has "enum" || schema.has "const" then do
      match ← enter schema hint with
      | .known name => return .named name false
      | .fresh name =>
        match enumValues schema name with
        | .ok values => leave schema name (.enum values)
        | .error stop => throw stop
    else if schema.has "oneOf" || schema.has "anyOf" then do
      match ← enter schema hint with
      | .known name => return .named name false
      | .fresh name =>
        match _h : alternatives schema with
        | .ok options => leave schema name (.union (← variantsOf name 0 options []))
        | .error cause => throw (.crash cause)
    else
      match _hget : schema.get? "allOf" with
      | some allOf =>
        match _hmerge : schema.mergeAllOf allOf with
        -- The merged schema has fewer levels of `allOf`, so this comes to an end.
        | .ok merged => schemaRef merged hint
        | .error cause => throw (.crash cause)
      | none =>
        match _htype : schema.get? "type" with
        -- One type in a list is that type; several make a union of the schema with each of them.
        | some (.arr [type]) => plainRef schema hint type
        | some (.arr types) => do
          let key ← orCrash schema.structureText
          match ← nameOf? key with
          | some name => return .named name false
          | none =>
            -- The variants come first, so the names that they take are taken before this one.
            let variants ← typeVariantsOf schema hint types []
            let name ← reserve schema.title hint
            learn key name
            declare ⟨name, descriptionOf (.obj schema.members), .union variants⟩
            return .named name false
        | type => plainRef schema hint (type.getD .null)
termination_by (2 * schema.depth + 1, schema.allOfHeight, schema.typeHeight, 1)
decreasing_by
  · have := height_le_of_alternatives _h
    simp only [Prod.lex_def]
    omega
  · have := Schema.depth_mergeAllOf_le _hget _hmerge
    have := Schema.allOfHeight_mergeAllOf_lt _hget _hmerge
    simp only [Prod.lex_def]
    omega
  · simp only [Prod.lex_def, true_and]
    omega
  · have : schema.typeHeight = Json.heightItems types + 2 := by
      simp only [Schema.typeHeight, Schema.heightOf, _htype, Json.height]
    simp only [Prod.lex_def, true_and]
    omega
  · simp only [Prod.lex_def, true_and]
    omega

/-- The type of an object schema that allows at most one type and has no alternatives. -/
def plainRef (schema : Schema) (hint type : Json) : Run TypeRef :=
  -- Properties make an object whatever the type says; an object without any is a primitive one.
  if type.str? = some "object" || schema.hasProperties then
    if schema.table.isSome || ((schema.get? "properties").map Json.isTruthy).getD false then do
      match ← enter schema hint with
      | .known name => return .named name false
      | .fresh name =>
        let required ← orCrash (requiredNames schema)
        match _h : propertiesOf schema with
        | .ok table => leave schema name (.object (← fieldsOf name required table))
        | .error cause => throw (.crash cause)
    else return .primitive .object
  else if type.str? = some "array" || schema.has "items" then
    match _h : schema.get? "items" with
    | some (.obj members) => do return .array (← typeRef (.obj members) (itemHint hint))
    | _ => return .array .any
  else
    match type.str?.bind Primitive.ofTypeName? with
    | some primitive => return .primitive primitive
    | none => return .any
termination_by (2 * schema.depth + 1, schema.allOfHeight, schema.typeHeight, 0)
decreasing_by
  · have := height_le_of_propertiesOf _h
    simp only [Prod.lex_def]
    omega
  · have := Schema.height_le_depth _h rfl
    simp only [Prod.lex_def]
    omega

/-- The properties of the declaration `name`. -/
def fieldsOf (name : String) (required : List Json) (table : PropertyTable) : Run (List Field) :=
  match table with
  | [] => return []
  | (property, value) :: rest => do
    let type ← typeRef value (.str (name ++ " " ++ property.display))
    let field : Field :=
      ⟨property, type, Schema.holds required property.toJson, descriptionOf value⟩
    return field :: (← fieldsOf name required rest)
termination_by (2 * table.height, 0, 0, table.length)
decreasing_by
  all_goals
    simp only [PropertyTable.height, List.length_cons, Prod.lex_def, true_and]
    omega

/-- The variants that alternatives come down to, from the one of this index on, after `variants`. -/
def variantsOf (name : String) (index : Nat) (options : List Json) (variants : List TypeRef) :
    Run (List TypeRef) :=
  match options with
  | [] => return variants
  | option :: rest => do
    let variant ← typeRef option (.str (name ++ " " ++ toString index))
    variantsOf name (index + 1) rest (addVariant variants variant)
termination_by (2 * Json.heightItems options, 0, 0, options.length)
decreasing_by
  all_goals
    simp only [Json.heightItems, List.length_cons, Prod.lex_def, true_and]
    omega

/-- The variants that several allowed types come down to, after `variants`. -/
def typeVariantsOf (schema : Schema) (hint : Json) (types : List Json) (variants : List TypeRef) :
    Run (List TypeRef) :=
  match types with
  | [] => return variants
  | type :: rest => do
    let variant ← schemaRef (schema.restrict type) hint
    typeVariantsOf schema hint rest (addVariant variants variant)
termination_by
  (2 * schema.depth + 1, schema.allOfHeight, Json.heightItems types + 1, types.length + 2)
decreasing_by
  · have := Schema.depth_restrict_le schema type
    have := Schema.allOfHeight_restrict_le schema type
    have := Schema.typeHeight_restrict schema type
    simp only [Json.heightItems, List.length_cons, Prod.lex_def]
    omega
  · simp only [Json.heightItems, List.length_cons, Prod.lex_def, true_and]
    omega
end

/-- Makes sure that a schema has a declaration: another name for its type, if it needs none of its
own. -/
def define (value hint : Json) : Run Unit := do
  let type ← typeRef value hint
  match type with
  | .named _ false => return
  | _ =>
    let key ← orCrash (match value with
      | .obj members => (Schema.mk members none).structureText
      | value => .ok (value.render .sorted))
    match ← nameOf? key with
    | some _ => return
    | none =>
      let name ← reserve ((value.get? "title").getD .null) hint
      learn key name
      declare ⟨name, descriptionOf value, .alias type⟩

/-- A hint at the schema of this index. -/
def rootHint (index : Nat) (schema : Members) : Json :=
  let fallback := Json.str ("Schema" ++ if index = 0 then "" else toString index)
  match Members.get? schema "title" with
  | some title => if title.isTruthy then title else fallback
  | none => fallback

/-- Defines the schemas, from the one of this index on. -/
def defineRoots (index : Nat) : List Json → Run Unit
  | [] => return
  | .obj members :: rest => do
    define (.obj members) (rootHint index members)
    defineRoots (index + 1) rest
  | _ :: _ => throw (.error (.notObject index))

/-- A definition under its name, which is its title unless it has one. -/
def titled (name : String) : Json → Json
  | .obj members => .obj (Members.putIfAbsent members "title" (.str name))
  | value => value

/-- The definitions that come with a schema, under their names. -/
def definitionsOf (schema : Json) : Members :=
  ["definitions", "$defs"].flatMap fun container =>
    match schema.get? container with
    | some (.obj definitions) => definitions
    | _ => []

/-- Defines what is not used yet of the definitions that come with the schemas. -/
def defineRest (schemas : List Json) : Run Unit :=
  (schemas.flatMap definitionsOf).forM fun (name, definition) =>
    define (titled name definition) (.str name)

/-- The schemas that a value stands for: one object, or the elements of anything else. -/
def schemasOf (value : Json) : Except Crash (List Json) :=
  match value with
  | .obj _ => .ok [value]
  | value =>
    match value.elements? with
    | some schemas => .ok schemas
    | none => .error .wrongKind

/-- The declarations for schemas without references: each schema, then their other definitions. -/
def analyze (schemas : List Json) : Except (Stop AnalysisError) Catalog := do
  let ((), state) ← (do defineRoots 0 schemas; defineRest schemas : Run Unit).run {}
  return state.declarations

end Analysis

end SchemaPress
