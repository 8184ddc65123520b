import SchemaPress.Decimal.Shortest
import SchemaPress.Json.Basic
import SchemaPress.Text.Printable

/-!
# Values as literals

Generated Python sources and messages about files spell values out as Python literals: words for
`null` and the truth values, the shortest decimal for a double, and quoted texts in which everything
that is not printable is escaped. A text is quoted with single quotes unless it holds a single quote
and no double quote.
-/

namespace SchemaPress.Text

/-- `count` hexadecimal digits of `n`. -/
def hexDigits (count n : Nat) : List Char :=
  let digits := Nat.toDigits 16 n
  List.replicate (count - digits.length) '0' ++ digits

/-- A character inside a literal quoted with `mark`. -/
def literalEscape (mark c : Char) : List Char :=
  if c = mark || c = '\\' then ['\\', c]
  else if c = '\t' then ['\\', 't']
  else if c = '\n' then ['\\', 'n']
  else if c = '\r' then ['\\', 'r']
  else if isPrintable c then [c]
  else if c.toNat < 0x100 then '\\' :: 'x' :: hexDigits 2 c.toNat
  else if c.toNat < 0x10000 then '\\' :: 'u' :: hexDigits 4 c.toNat
  else '\\' :: 'U' :: hexDigits 8 c.toNat

/-- The quotes for a text. -/
def literalMark (text : List Char) : Char :=
  if text.contains '\'' && !text.contains '"' then '"' else '\''

/-- The literal of a text. -/
def literal (text : String) : String :=
  let mark := literalMark text.toList
  String.ofList (mark :: text.toList.flatMap (literalEscape mark) ++ [mark])

end SchemaPress.Text

namespace SchemaPress.Json

open Text

mutual
/-- The literal of a value. -/
def literal : Json → String
  | .null => "None"
  | .bool true => "True"
  | .bool false => "False"
  | .int value => toString value.value
  | .double value => String.ofList (value.text "nan" "inf")
  | .str text => Text.literal text
  | .arr items => "[" ++ ", ".intercalate (itemLiterals items) ++ "]"
  | .obj members => "\x7b" ++ ", ".intercalate (memberLiterals members) ++ "\x7d"

/-- The literals of items. -/
def itemLiterals : List Json → List String
  | [] => []
  | item :: rest => item.literal :: itemLiterals rest

/-- The literals of members. -/
def memberLiterals : List (String × Json) → List String
  | [] => []
  | (name, value) :: rest => (Text.literal name ++ ": " ++ value.literal) :: memberLiterals rest
end

/-- A value inside a sentence: a text stands for itself, anything else is written as a literal. -/
def display : Json → String
  | .str text => text
  | value => value.literal

end SchemaPress.Json
