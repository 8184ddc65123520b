import SchemaPress.Source.Basic
import SchemaPress.Text.Quote

/-!
# Rust sources

Objects become structs and enums of texts become enums, both with the derives of serde; unions become
untagged enums. Other enums stand for any value. A back edge is boxed, so that every type has a size.
-/

namespace SchemaPress.Source.Rust

/-- The Rust type of a primitive. -/
def primitiveType : Primitive → String
  | .string => "String"
  | .number => "f64"
  | .integer => "i64"
  | .boolean => "bool"
  | .null => "serde_json::Value"
  | .object => "serde_json::Map<String, serde_json::Value>"

/-- The text of a type. -/
def typeText : TypeRef → String
  | .primitive type => primitiveType type
  | .array items => "Vec<" ++ typeText items ++ ">"
  | .named name backEdge => if backEdge then "Box<" ++ name ++ ">" else name
  | .any => "serde_json::Value"

/-! ### Structs -/

/-- An identifier for a word-based name: no digit in front, keywords as raw identifiers, and the
keywords that cannot be raw told apart by an underscore. -/
def identifier (name : String) : String :=
  let name := Name.shieldDigit "_" name
  if Keyword.rustPath.contains name then name ++ "_"
  else if Keyword.rust.contains name then "r#" ++ name
  else name

/-- The name that an identifier stands for. -/
def identifierName (identifier : String) : String :=
  match identifier.toList with
  | 'r' :: '#' :: rest => String.ofList rest
  | _ => identifier

/-- The lines of the fields, whose names have to be apart from the names in use. -/
def fieldLines (taken : List String) : List Field → Except Crash (List String)
  | [] => .ok []
  | field :: rest => do
    let base := Name.fresh taken
      (Name.orElse (Text.snakeCase (← wordsSource field.name)) "field")
    let ident := identifier base
    let name ← textName field.name
    let rename := if identifierName ident = name then [] else ["rename = " ++ Text.rustQuote name]
    let skip := if field.required then [] else ["skip_serializing_if = \"Option::is_none\""]
    let type := typeText field.type
    let type := if field.required then type else "Option<" ++ type ++ ">"
    let attributes := ", ".intercalate (rename ++ skip)
    return linesIf field.description ["    /// " ++ field.description] ++
      linesIf attributes ["    #[serde(" ++ attributes ++ ")]"] ++
      ["    pub " ++ ident ++ ": " ++ type ++ ","] ++ (← fieldLines (base :: taken) rest)

/-! ### Enums of texts -/

/-- The variant for an enum value, apart from the variants in use. -/
def variantName (index : Nat) (value : String) (taken : List String) : String :=
  Name.fresh taken (Name.shieldDigit "V"
    (Name.orElse (Text.pascalCase value) ("Value" ++ toString index)))

/-- The lines of the variants for enum values, from the one of this index on. -/
def variantLines (index : Nat) (taken : List String) : List String → List String
  | [] => []
  | value :: rest =>
    let name := variantName index value taken
    (if name = value then [] else ["    #[serde(rename = " ++ Text.rustQuote value ++ ")]"]) ++
      ["    " ++ name ++ ","] ++ variantLines (index + 1) (name :: taken) rest

/-! ### Unions -/

/-- The name of the variant that holds a primitive. There is none for `null`, whose variant holds
nothing. -/
def primitiveVariant? : Primitive → Option String
  | .string => some "String"
  | .number => some "Number"
  | .integer => some "Integer"
  | .boolean => some "Boolean"
  | .object => some "Object"
  | .null => none

/-- The name of the variant that holds a type. -/
def holderName : TypeRef → Except Crash String
  | .primitive type =>
    match primitiveVariant? type with
    | some name => .ok name
    | none => .error .unknownKey
  | .named name _ => .ok name
  | .array items => do return (← holderName items) ++ "Array"
  | .any => .ok "Any"

/-- The lines of the variants of a union, whose names have to be apart from the names in use. -/
def unionLines (taken : List String) : List TypeRef → Except Crash (List String)
  | [] => .ok []
  | .primitive .null :: rest => do
    let name := Name.fresh taken "Null"
    return ("    " ++ name ++ ",") :: (← unionLines (name :: taken) rest)
  | type :: rest => do
    let name := Name.fresh taken (← holderName type)
    return ("    " ++ name ++ "(" ++ typeText type ++ "),") :: (← unionLines (name :: taken) rest)

/-! ### Declarations -/

/-- The lines of a declaration. -/
def block (declaration : Declaration) : Except Crash (List String) := do
  let name := declaration.name
  let header := linesIf declaration.description ["/// " ++ declaration.description]
  let synonym (type : String) := header ++ ["pub type " ++ name ++ " = " ++ type ++ ";"]
  match declaration.shape with
  | .object fields =>
    return header ++
      ["#[derive(Serialize, Deserialize, Clone, Debug, PartialEq)]", "pub struct " ++ name ++ " \x7b"] ++
      (← fieldLines [] fields) ++ ["\x7d"]
  | .enum values =>
    match texts? values with
    | some (value :: rest) =>
      return header ++
        ["#[derive(Serialize, Deserialize, Clone, Debug, PartialEq, Eq, Hash)]",
         "pub enum " ++ name ++ " \x7b"] ++
        variantLines 0 [] (value :: rest) ++ ["\x7d"]
    | _ => return synonym "serde_json::Value"
  | .union variants =>
    return header ++
      ["#[derive(Serialize, Deserialize, Clone, Debug, PartialEq)]", "#[serde(untagged)]",
       "pub enum " ++ name ++ " \x7b"] ++
      (← unionLines [] variants) ++ ["\x7d"]
  | .alias type => return synonym (typeText type)

/-- The Rust source of a catalog. -/
def render (catalog : Catalog) : Except Crash String := do
  return assemble (["// " ++ notice, "", "use serde::\x7bDeserialize, Serialize\x7d;"] ::
    (← catalog.mapM block))

end SchemaPress.Source.Rust
