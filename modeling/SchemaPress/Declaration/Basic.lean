import SchemaPress.Schema.Basic

/-!
# Declarations

What a schema comes down to before any target language is looked at: a flat list of named
declarations, which refer to primitive types, to lists, and to each other by name.
-/

namespace SchemaPress

/-- The types that every target language has a type for. -/
inductive Primitive where
  | string
  | number
  | integer
  | boolean
  | null
  | object
deriving DecidableEq, Repr

namespace Primitive

/-- The name of the type in schemas. -/
def name : Primitive → String
  | .string => "string"
  | .number => "number"
  | .integer => "integer"
  | .boolean => "boolean"
  | .null => "null"
  | .object => "object"

/-- The primitive that a schema names by its type; objects are looked into instead. -/
def ofTypeName? : String → Option Primitive
  | "string" => some .string
  | "number" => some .number
  | "integer" => some .integer
  | "boolean" => some .boolean
  | "null" => some .null
  | _ => none

end Primitive

/-- A use of a type. -/
inductive TypeRef where
  /-- A primitive type. -/
  | primitive (type : Primitive)
  /-- Lists of one type. -/
  | array (items : TypeRef)
  /-- A declared type. A back edge leads from inside a recursive type to a declaration around it. -/
  | named (name : String) (backEdge : Bool)
  /-- Any value. -/
  | any
deriving DecidableEq, Repr

namespace TypeRef

/-- Whether two uses are of the same type, however they came about. -/
def same : TypeRef → TypeRef → Bool
  | .primitive a, .primitive b => a == b
  | .array a, .array b => same a b
  | .named a _, .named b _ => a == b
  | .any, .any => true
  | _, _ => false

end TypeRef

/-- A property of an object type. -/
structure Field where
  /-- The name of the property. -/
  name : PropertyName
  /-- Its type. -/
  type : TypeRef
  /-- Whether every object has it. -/
  required : Bool
  /-- What the schema says about it, on one line. -/
  description : String

/-- What a declaration declares. -/
inductive Shape where
  /-- An object type with these properties. -/
  | object (fields : List Field)
  /-- One of these values. -/
  | enum (values : List Json)
  /-- One of these types. -/
  | union (variants : List TypeRef)
  /-- Another name for a type. -/
  | alias (type : TypeRef)

/-- A named declaration. -/
structure Declaration where
  /-- The name. -/
  name : String
  /-- What the schema says about it, on one line. -/
  description : String
  /-- What it declares. -/
  shape : Shape

/-- Declarations in order: each after those that it refers to, back edges apart. -/
abbrev Catalog : Type := List Declaration

/-- The first declaration of a name. -/
def Catalog.get? (catalog : Catalog) (name : String) : Option Declaration :=
  catalog.find? fun declaration => declaration.name == name

end SchemaPress
