/-!
# Documents of the configuration format TOML

A document is kept as it was written. Its tables form a tree, and every item of the tree holds its
blanks, its comment and its end of line, so that a change to one item leaves the text of all others
alone. Of the values only inline tables are taken apart; every other value is its text.

A table may be written in several pieces that stand apart. The tree keeps them apart, too: a body may
hold several items of one name, each of them a piece of the table.
-/

namespace SchemaPress.Toml

/-! ### Keys -/

/-- One name of a key. -/
structure KeyPart where
  /-- What the name denotes. -/
  name : String
  /-- How it is written, with the blanks around it. -/
  text : String
deriving DecidableEq, Repr

/-- The names that lead to an entry, one below the other. -/
abbrev Key := List KeyPart

namespace Key

/-- The names. -/
def path (key : Key) : List String :=
  key.map KeyPart.name

/-- The key as it is written. -/
def text (key : Key) : String :=
  ".".intercalate (key.map KeyPart.text)

end Key

/-! ### Ends of lines -/

/-- What follows a value or a header on its line. -/
structure LineEnd where
  /-- The blanks in front of the comment or the end of the line. -/
  gap : String := ""
  /-- The comment, with its sign. -/
  comment : String := ""
  /-- The end of the line; the last line of a document may lack it, and lines within an inline table
  have none. -/
  newline : String := ""
deriving DecidableEq, Repr

namespace LineEnd

/-- The end of the line as it is written. -/
def text (lineEnd : LineEnd) : String :=
  lineEnd.gap ++ lineEnd.comment ++ lineEnd.newline

/-- The same, with the end of the line if that is lacking. -/
def closed (lineEnd : LineEnd) : LineEnd :=
  { lineEnd with newline := "\n" }

end LineEnd

/-! ### Items -/

/-- What stands around the name and the value of an entry. -/
structure Layout where
  /-- The blanks in front of the key. -/
  indent : String := ""
  /-- What stands between key and value. -/
  separator : String := " = "
  /-- What follows the value. -/
  lineEnd : LineEnd := { newline := "\n" }
deriving DecidableEq, Repr

/-- How a table came about. -/
inductive Origin where
  /-- By a key with periods in it, whose names but the last one are tables. -/
  | dotted
  /-- By the header of another table below it. -/
  | implied
  /-- By a header of its own. -/
  | header
deriving DecidableEq, Repr

/-- The line in front of the body of a table. -/
structure Header where
  /-- How the table came about; only a header of its own stands in the text. -/
  origin : Origin
  /-- What is written between the brackets. -/
  title : Option String := none
  /-- The blanks in front of the brackets. -/
  indent : String := ""
  /-- What follows the brackets. -/
  lineEnd : LineEnd := { newline := "\n" }
deriving DecidableEq, Repr

mutual

/-- A value. -/
inductive Value where
  /-- A value that is no table, as it is written. -/
  | plain (text : String)
  /-- An inline table. -/
  | inline (items : List Item)

/-- An item in the body of a table. -/
inductive Item where
  /-- Blanks and ends of lines; in an inline table also comments. -/
  | blank (text : String)
  /-- A line that only holds a comment. -/
  | comment (indent : String) (lineEnd : LineEnd)
  /-- The comma behind an entry of an inline table. -/
  | comma
  /-- The place of an item that was taken out. -/
  | hole
  /-- An entry with a value. -/
  | pair (key : KeyPart) (layout : Layout) (value : Value)
  /-- A table, or a piece of one. -/
  | table (key : KeyPart) (table : Table)
  /-- An array of tables. -/
  | array (key : KeyPart) (elements : List Table)

/-- A table, or a piece of one. -/
inductive Table where
  /-- The table with this header and body. -/
  | mk (header : Header) (items : List Item)

end

namespace Table

/-- The header of a table. -/
def header : Table → Header
  | mk header _ => header

/-- The body of a table. -/
def items : Table → List Item
  | mk _ items => items

end Table

namespace Item

/-- The name that an item defines. -/
def name? : Item → Option String
  | pair key _ _ => some key.name
  | table key _ => some key.name
  | array key _ => some key.name
  | _ => none

/-- Whether the item defines this name. -/
def isNamed (name : String) (item : Item) : Bool :=
  item.name? == some name

/-- The entry of a key: below a table for each of its names but the last. Nothing is the entry of no
names. -/
def ofKey (layout : Layout) (value : Value) : Key → Item
  | [] => hole
  | [key] => pair key layout value
  | key :: rest => table key (.mk { origin := .dotted } [ofKey layout value rest])

end Item

/-- A document: the body of its root table. -/
structure Document where
  /-- The items of the root table. -/
  items : List Item

/-! ### Texts as values -/

/-- A character of a text between double quotes. -/
def escapedChar (c : Char) : List Char :=
  match c with
  | '"' => ['\\', '"']
  | '\\' => ['\\', '\\']
  | '\x08' => ['\\', 'b']
  | '\t' => ['\\', 't']
  | '\n' => ['\\', 'n']
  | '\x0c' => ['\\', 'f']
  | '\r' => ['\\', 'r']
  | c =>
    if c.toNat < 0x20 || c.toNat = 0x7F then
      ['\\', 'u', '0', '0', Nat.digitChar (c.toNat / 16), Nat.digitChar (c.toNat % 16)]
    else [c]

/-- A text as a value on one line. -/
def quote (text : String) : String :=
  String.ofList ('"' :: text.toList.flatMap escapedChar ++ ['"'])

end SchemaPress.Toml
