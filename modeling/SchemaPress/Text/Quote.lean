/-!
# Texts inside generated sources

How a text is written as a string literal of Go or of Rust, and how it is kept inside a TypeScript
comment. Each rule works on one character at a time, so what a literal denotes can be read back
character by character.
-/

namespace SchemaPress.Text

/-- A character inside an interpreted string literal of Go. -/
def goEscape (c : Char) : List Char :=
  match c with
  | '\\' => ['\\', '\\']
  | '"' => ['\\', '"']
  | '\n' => ['\\', 'n']
  | '\r' => ['\\', 'r']
  | '\t' => ['\\', 't']
  | c => [c]

/-- The interpreted string literal of Go for a text. -/
def goQuote (text : String) : String :=
  String.ofList ('"' :: text.toList.flatMap goEscape ++ ['"'])

/-- The literal of a struct tag: a raw string, unless the tag holds the quote of raw strings. -/
def goTag (tag : String) : String :=
  if tag.toList.contains '\x60' then goQuote tag
  else String.ofList ('\x60' :: tag.toList ++ ['\x60'])

/-- A character of a text that already is JSON, inside an interpreted string literal of Go: JSON
leaves backslashes and quotes to escape, and no control characters. -/
def goJsonEscape (c : Char) : List Char :=
  if c = '\\' || c = '"' then ['\\', c] else [c]

/-- The interpreted string literal of Go for a JSON text. -/
def goJsonQuote (text : List Char) : String :=
  String.ofList ('"' :: text.flatMap goJsonEscape ++ ['"'])

/-- A character inside a string literal of Rust. -/
def rustEscape (c : Char) : List Char :=
  if c = '"' || c = '\\' then ['\\', c]
  else if c = '\n' then ['\\', 'n']
  else if c = '\r' then ['\\', 'r']
  else if c = '\t' then ['\\', 't']
  else if c.toNat < 0x20 then ['\\', 'u', '\x7b'] ++ Nat.toDigits 16 c.toNat ++ ['\x7d']
  else [c]

/-- The string literal of Rust for a text. -/
def rustQuote (text : String) : String :=
  String.ofList ('"' :: text.toList.flatMap rustEscape ++ ['"'])

/-- Breaks up each mark that would close a block comment. -/
def shieldComment : List Char → List Char
  | [] => []
  | '*' :: '/' :: rest => '*' :: '\\' :: '/' :: shieldComment rest
  | c :: rest => c :: shieldComment rest

/-- A text that can stand in a TypeScript block comment. -/
def typeScriptComment (text : String) : String :=
  String.ofList (shieldComment text.toList)

end SchemaPress.Text
