import SchemaPress.Json.Writer
import SchemaPress.Source.Basic
import SchemaPress.Text.Quote

/-!
# Go sources

Objects become structs with JSON tags, enums of texts or of integers typed constants, and unions the
empty interface. A property that may be missing, or that closes a cycle, is a pointer unless its type
has an empty value anyway. The package clause is not part of the text.
-/

namespace SchemaPress.Source.Go

/-- The Go type of a primitive. -/
def primitiveType : Primitive → String
  | .string => "string"
  | .number => "float64"
  | .integer => "int64"
  | .boolean => "bool"
  | .null => "interface\x7b\x7d"
  | .object => "map[string]interface\x7b\x7d"

/-- The text of a type. -/
def typeText : TypeRef → String
  | .primitive type => primitiveType type
  | .array items => "[]" ++ typeText items
  | .named name _ => name
  | .any => "interface\x7b\x7d"

/-- Whether a missing value of the type can be told without a pointer. -/
def hasEmptyValue : TypeRef → Bool
  | .array _ => true
  | .any => true
  | .primitive .null => true
  | .primitive .object => true
  | _ => false

/-- The type of a property. -/
def fieldType (type : TypeRef) (required : Bool) : String :=
  match type with
  | .named name true => "*" ++ name
  | _ => if required || hasEmptyValue type then typeText type else "*" ++ typeText type

/-- A struct field name for a property, apart from the names in use. -/
def fieldName (source : String) (taken : List String) : String :=
  Name.fresh taken (Name.shieldDigit "Field" (Name.orElse (Text.pascalCase source) "Field"))

/-- The JSON tag of a property. -/
def tagText (name : PropertyName) (required : Bool) : Except Crash String :=
  if required then textName name else .ok (name.display ++ ",omitempty")

/-- The lines of the fields, whose names have to be apart from the names in use. -/
def fieldLines (taken : List String) : List Field → Except Crash (List String)
  | [] => .ok []
  | field :: rest => do
    let name := fieldName (← wordsSource field.name) taken
    let type := fieldType field.type field.required
    let tag := Text.goTag ("json:" ++ Text.goQuote (← tagText field.name field.required))
    return linesIf field.description ["\t// " ++ field.description] ++
      ["\t" ++ name ++ " " ++ type ++ " " ++ tag] ++ (← fieldLines (name :: taken) rest)

/-- The type that enum values share, if it can have constants. -/
def underlying (values : List Json) : Option String :=
  if values.isEmpty then none
  else if values.all (fun value => match value with
      | .str _ => true
      | _ => false) then some "string"
  else if values.all (fun value => match value with
      | .int _ => true
      | _ => false) then some "int64"
  else none

/-- The constant for an enum value, apart from the constants in use. -/
def constantName (typeName : String) (index : Nat) (value : Json) (taken : List String) : String :=
  Name.fresh taken (typeName ++ Name.shieldDigit "N"
    (Name.orElse (Text.pascalCase value.display) ("Value" ++ toString index)))

/-- The lines of the constants for enum values from the one of this index on, and all constants in
use then. -/
def constantLines (typeName : String) (index : Nat) (taken : List String) :
    List Json → List String × List String
  | [] => ([], taken)
  | value :: rest =>
    let name := constantName typeName index value taken
    let line := "\t" ++ name ++ " " ++ typeName ++ " = " ++ value.render .line
    let (lines, taken) := constantLines typeName (index + 1) (name :: taken) rest
    (line :: lines, taken)

/-- The lines of a declaration, and the constants in use after it. -/
def block (taken : List String) (declaration : Declaration) :
    Except Crash (List String × List String) := do
  let name := declaration.name
  let header := linesIf declaration.description ["// " ++ name ++ " " ++ declaration.description]
  let defined (type : String) := header ++ ["type " ++ name ++ " " ++ type]
  match declaration.shape with
  | .object fields =>
    let lines ← fieldLines [] fields
    return (defined "struct \x7b" ++ lines ++ ["\x7d"], taken)
  | .enum values =>
    match underlying values with
    | some type =>
      let (lines, taken) := constantLines name 0 taken values
      return (defined type ++ ["", "const ("] ++ lines ++ [")"], taken)
    | none => return (defined "interface\x7b\x7d", taken)
  | .union _ => return (defined "interface\x7b\x7d", taken)
  | .alias type => return (defined (typeText type), taken)

/-- The blocks of declarations, where these constants are in use. -/
def blocks (taken : List String) : Catalog → Except Crash (List (List String))
  | [] => .ok []
  | declaration :: rest => do
    let (lines, taken) ← block taken declaration
    return lines :: (← blocks taken rest)

/-- The Go source of a catalog. -/
def render (catalog : Catalog) : Except Crash String := do
  return assemble (← blocks [] catalog)

end SchemaPress.Source.Go
