import SchemaPress.Source.Basic
import SchemaPress.Text.Identifier

/-!
# Python sources

Objects become typed dictionaries, enums enum classes, and everything else a type alias. A typed
dictionary is a class when each key can be written as an attribute, and a call with quoted keys
otherwise. Declarations come in dependency order, so only back edges are quoted.

The header imports what the declarations use (`Uses`), so it is made after them.
-/

namespace SchemaPress.Source.Python

/-- What declarations use of the standard library: names of the module of types, and whether an enum
class is among them. -/
structure Uses where
  /-- Names to import from the module of types. -/
  types : List String := []
  /-- Whether the base class of enums is used. -/
  enums : Bool := false

/-- The uses of both. -/
def Uses.join (a b : Uses) : Uses :=
  ⟨a.types ++ b.types, a.enums || b.enums⟩

/-- The names in order, each once. -/
def Uses.sortedTypes (uses : Uses) : List String :=
  uses.types.eraseDups.mergeSort fun a b => decide (a ≤ b)

/-- The Python type of a primitive. -/
def primitiveType : Primitive → String
  | .string => "str"
  | .number => "float"
  | .integer => "int"
  | .boolean => "bool"
  | .null => "None"
  | .object => "Dict[str, Any]"

/-- The text of a type. -/
def typeText : TypeRef → String
  | .primitive type => primitiveType type
  | .array items => "List[" ++ typeText items ++ "]"
  | .named name backEdge => if backEdge then "\"" ++ name ++ "\"" else name
  | .any => "Any"

/-- The names that the text of a type uses. -/
def typeNames : TypeRef → List String
  | .primitive .object => ["Any", "Dict"]
  | .primitive _ => []
  | .array items => "List" :: typeNames items
  | .named _ _ => []
  | .any => ["Any"]

/-- A description inside a docstring. -/
def docstring (description : String) : String :=
  String.ofList (description.toList.flatMap fun c =>
    if c = '\\' || c = '"' then ['\\', c] else [c])

/-! ### Typed dictionaries -/

/-- The text of a property's type. -/
def fieldType (field : Field) : String :=
  if field.required then typeText field.type else "NotRequired[" ++ typeText field.type ++ "]"

/-- The names that a property uses. -/
def fieldNames (field : Field) : List String :=
  typeNames field.type ++ if field.required then [] else ["NotRequired"]

/-- Whether a key can be written as an attribute of a class. -/
def isAttribute (name : String) : Bool :=
  Text.isIdentifier name && !Keyword.python.contains name

/-- Whether some key has to be quoted. Keys are looked at up to the first that has to be; what is no
text cannot be looked at. -/
def needsQuotes : List Field → Except Crash Bool
  | [] => .ok false
  | field :: rest =>
    match field.name with
    | .text name => if isAttribute name then needsQuotes rest else .ok true
    | .scalar _ => .error .noSuchPart

/-- The lines of a typed dictionary. -/
def dictionaryLines (name description : String) (fields : List Field) :
    Except Crash (List String) := do
  if ← needsQuotes fields then
    return linesIf description ["# " ++ description] ++
      [name ++ " = TypedDict(", "    \"" ++ name ++ "\",", "    \x7b"] ++
      fields.map (fun field =>
        "        " ++ field.name.toJson.literal ++ ": " ++ fieldType field ++ ",") ++
      ["    \x7d,", ")"]
  else
    return ["class " ++ name ++ "(TypedDict):"] ++
      linesIf description ["    \"\"\"" ++ description ++ "\"\"\"", ""] ++
      fields.map fun field => "    " ++ field.name.display ++ ": " ++ fieldType field

/-! ### Enums -/

/-- The member for an enum value, apart from the members in use. -/
def memberName (index : Nat) (value : Json) (taken : List String) : String :=
  Name.fresh taken (Name.shieldDigit "VALUE_"
    (Name.orElse (Text.upperSnakeCase value.display) ("VALUE_" ++ toString index)))

/-- The lines of the members for enum values, from the one of this index on. -/
def memberLines (index : Nat) (taken : List String) : List Json → List String
  | [] => []
  | value :: rest =>
    let name := memberName index value taken
    ("    " ++ name ++ " = " ++ value.literal) :: memberLines (index + 1) (name :: taken) rest

/-- The lines of an enum class. -/
def enumLines (name description : String) (values : List Json) : List String :=
  ["class " ++ name ++ "(Enum):"] ++
    linesIf description ["    \"\"\"" ++ description ++ "\"\"\"", ""] ++
    if values.isEmpty then ["    pass"] else memberLines 0 [] values

/-! ### Declarations -/

/-- The text of a union. -/
def unionText (variants : List TypeRef) : String :=
  match variants with
  | [] => "Any"
  | [variant] => typeText variant
  | _ => "Union[" ++ ", ".intercalate (variants.map typeText) ++ "]"

/-- The names that a union uses. -/
def unionNames (variants : List TypeRef) : List String :=
  match variants with
  | [] => ["Any"]
  | [variant] => typeNames variant
  | _ => "Union" :: variants.flatMap typeNames

/-- The lines of an alias. -/
def aliasLines (name description type : String) : List String :=
  linesIf description ["# " ++ description] ++ [name ++ " = " ++ type]

/-- The lines of a declaration, and what it uses. -/
def block (declaration : Declaration) : Except Crash (List String × Uses) := do
  let name := declaration.name
  let description := docstring declaration.description
  match declaration.shape with
  | .object fields =>
    return (← dictionaryLines name description fields,
      ⟨"TypedDict" :: fields.flatMap fieldNames, false⟩)
  | .enum values => return (enumLines name description values, ⟨[], true⟩)
  | .union variants =>
    return (aliasLines name description (unionText variants), ⟨unionNames variants, false⟩)
  | .alias type => return (aliasLines name description (typeText type), ⟨typeNames type, false⟩)

/-- The header for these uses. -/
def header (uses : Uses) : List String :=
  let types := ", ".intercalate uses.sortedTypes
  ["# " ++ notice] ++ (if uses.enums then ["from enum import Enum"] else []) ++
    linesIf types ["from typing import " ++ types]

/-- The Python source of a catalog. -/
def render (catalog : Catalog) : Except Crash String := do
  let blocks ← catalog.mapM block
  let uses := blocks.foldl (fun uses (_, more) => uses.join more) {}
  return assemble (header uses :: blocks.map (·.1))

end SchemaPress.Source.Python
