import SchemaPress.Keyword
import SchemaPress.Text.Basic
import SchemaPress.Text.Words

/-!
# Names of declarations and artifacts

Titles, property names and enum values are arbitrary text. The functions here turn them into names
that the target languages accept: a name is built from the words of the text, and what a language
would refuse (no word at all, a digit in front, a keyword) is mended by a fixed rule.
-/

namespace SchemaPress.Name

open Text

/-- The names to try for `base`, in order: `base` itself, then `base` with a counter from 2 on.
There is one more of them than there are names in use, so one of them is free. -/
def candidates (used : Nat) (base : String) : List String :=
  base :: (List.range used).map fun i => base ++ toString (i + 2)

/-- The first candidate for `base` that is not taken. -/
def fresh (taken : List String) (base : String) : String :=
  if taken.contains base then
    ((candidates taken.length base).find? fun name => !taken.contains name).getD base
  else base

/-- Makes `name` usable where the words of `reserved` are not: nothing becomes `fallback`, a digit
in front or a reserved word gets an underscore. -/
def escape (name : String) (reserved : List String) (fallback : String) : String :=
  match name.toList with
  | [] => fallback
  | c :: _ => if isDigit c || reserved.contains name then "_" ++ name else name

/-- Whether the first character is a digit of ASCII. -/
def startsWithDigit (name : String) : Bool :=
  name.toList.head?.any Char.isDigit

/-- Puts `lead` in front of a name that starts with a digit. -/
def shieldDigit (lead name : String) : String :=
  if startsWithDigit name then lead ++ name else name

/-- The name, or `fallback` where there is none. -/
def orElse (name fallback : String) : String :=
  if name.isEmpty then fallback else name

/-- A type name that is valid in every target language; empty when the text has no words. -/
def ofType (text : String) : String :=
  let name := pascalCase text
  if startsWithDigit name then "Type" ++ name
  else if Keyword.typeNames.contains name then name ++ "Type"
  else name

/-- The constant that a TypeScript module exports for a schema of this title. -/
def typeScriptConstant (title : String) : String :=
  escape (camelCase title) Keyword.typeScript "schema"

/-- A snake-case name for a package: never empty, never with a digit in front, and kept apart from
`keywords` by an underscore at the end. -/
def package (title : String) (keywords : List String) : String :=
  let name := shieldDigit "schema_" (orElse (snakeCase title) "schema")
  if keywords.contains name then name ++ "_" else name

/-- The Go package for a schema of this title. -/
def goPackage (title : String) : String :=
  package title Keyword.go

/-- The exported Go constant that holds the raw schema of this title. -/
def goRawConstant (title : String) : String :=
  "Raw" ++ pascalCase title

/-- The crate for a schema of this title. -/
def crate (title : String) : String :=
  package title Keyword.rust

end SchemaPress.Name
