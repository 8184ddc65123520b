import SchemaPress.Json.Writer
import SchemaPress.Source.Basic
import SchemaPress.Text.Quote

/-!
# TypeScript sources

Objects become interfaces, everything else a type alias. Descriptions become block comments, in which
the closing mark is broken up. A property that is no identifier is quoted as a JSON text.
-/

namespace SchemaPress.Source.TypeScript

/-- The TypeScript type of a primitive. -/
def primitiveType : Primitive → String
  | .string => "string"
  | .number => "number"
  | .integer => "number"
  | .boolean => "boolean"
  | .null => "null"
  | .object => "\x7b [key: string]: any \x7d"

/-- Whether a character may open an identifier. -/
def startsIdentifier (c : Char) : Bool :=
  c.isAlpha || c == '_' || c == '$'

/-- Whether a character may stand inside an identifier. -/
def continuesIdentifier (c : Char) : Bool :=
  c.isAlphanum || c == '_' || c == '$'

/-- Whether a text is an identifier. -/
def isIdentifier (text : List Char) : Bool :=
  match text with
  | [] => false
  | c :: rest => startsIdentifier c && rest.all continuesIdentifier

/-- Whether a text is written without quotes: an identifier, also with a line break at its end. -/
def isBare (text : List Char) : Bool :=
  isIdentifier text || (text.getLast? == some '\n' && isIdentifier text.dropLast)

/-- A type in parentheses unless it is a single identifier. -/
def wrap (type : String) : String :=
  if isBare type.toList then type else "(" ++ type ++ ")"

/-- The text of a type. -/
def typeText : TypeRef → String
  | .primitive type => primitiveType type
  | .array items => wrap (typeText items) ++ "[]"
  | .named name _ => name
  | .any => "any"

/-- The key of a property. -/
def key (name : String) : String :=
  if isBare name.toList then name else String.ofList (Json.quote true name)

/-- The lines of a property. -/
def fieldLines (field : Field) : Except Crash (List String) := do
  let name ← textName field.name
  let comment := Text.typeScriptComment field.description
  return linesIf comment ["  /** " ++ comment ++ " */"] ++
    ["  " ++ key name ++ (if field.required then "" else "?") ++ ": " ++ typeText field.type ++ ";"]

/-- The alternatives of a type, or a type for none. -/
def alternatives (types : List String) (none : String) : String :=
  if types.isEmpty then none else " | ".intercalate types

/-- The lines of a declaration. -/
def block (declaration : Declaration) : Except Crash (List String) := do
  let comment := Text.typeScriptComment declaration.description
  let header := linesIf comment ["/**", " * " ++ comment, " */"]
  let synonym (type : String) := header ++ ["export type " ++ declaration.name ++ " = " ++ type ++ ";"]
  match declaration.shape with
  | .object fields =>
    let lines ← fields.mapM fieldLines
    return header ++ ["export interface " ++ declaration.name ++ " \x7b"] ++ lines.flatten ++ ["\x7d"]
  | .enum values => return synonym (alternatives (values.map (Json.render .ascii)) "never")
  | .union variants => return synonym (alternatives (variants.map typeText) "any")
  | .alias type => return synonym (typeText type)

/-- The TypeScript source of a catalog. -/
def render (catalog : Catalog) : Except Crash String := do
  return assemble (["// " ++ notice] :: (← catalog.mapM block))

end SchemaPress.Source.TypeScript
