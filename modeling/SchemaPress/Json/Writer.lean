import SchemaPress.Decimal.Shortest
import SchemaPress.Json.Basic

/-!
# Writing JSON

One writer serves every JSON text of the program; a `Style` says what the texts differ in. The
styles in use are `Style.line` (answers and the TypeScript constant), `Style.dense` (the Go
constant), `Style.indented` (`schema.json` and `package.json`), `Style.ascii` (TypeScript literals)
and `Style.sorted` (the text by which schemas of one structure are recognised).
-/

namespace SchemaPress.Json

/-- What JSON texts of one value differ in. -/
structure Style where
  /-- Written between items. -/
  separator : String
  /-- Written between a member's name and its value. -/
  colon : String
  /-- Blanks per level, each item on a line of its own; `none` for a text on one line. -/
  indent : Option Nat
  /-- Whether characters beyond ASCII are escaped. -/
  asciiOnly : Bool
  /-- Whether members are sorted by name. -/
  sortMembers : Bool

namespace Style

/-- One line with a blank after each separator. -/
def line : Style := ⟨", ", ": ", none, false, false⟩

/-- One line without blanks. -/
def dense : Style := ⟨",", ":", none, false, false⟩

/-- Two blanks of indentation per level. -/
def indented : Style := ⟨",", ": ", some 2, false, false⟩

/-- One line of ASCII characters. -/
def ascii : Style := ⟨", ", ": ", none, true, false⟩

/-- One line of ASCII characters with members sorted by name. -/
def sorted : Style := ⟨", ", ": ", none, true, true⟩

end Style

/-- The hexadecimal digits of `n`, at least four of them. -/
def hex4 (n : Nat) : List Char :=
  let digits := Nat.toDigits 16 n
  List.replicate (4 - digits.length) '0' ++ digits

/-- A code unit as an escape. -/
def unitEscape (n : Nat) : List Char :=
  '\\' :: 'u' :: hex4 n

/-- A character inside a quoted text. -/
def escapeChar (asciiOnly : Bool) (c : Char) : List Char :=
  if c = '"' then ['\\', '"']
  else if c = '\\' then ['\\', '\\']
  else if c = '\n' then ['\\', 'n']
  else if c = '\r' then ['\\', 'r']
  else if c = '\t' then ['\\', 't']
  else if c = '\x08' then ['\\', 'b']
  else if c = '\x0c' then ['\\', 'f']
  else if c.toNat < 0x20 then unitEscape c.toNat
  else if asciiOnly && 0x7F ≤ c.toNat then
    if c.toNat < 0x10000 then unitEscape c.toNat
    else
      let offset := c.toNat - 0x10000
      unitEscape (0xD800 + offset / 0x400) ++ unitEscape (0xDC00 + offset % 0x400)
  else [c]

/-- A quoted text. -/
def quote (asciiOnly : Bool) (text : String) : List Char :=
  '"' :: text.toList.flatMap (escapeChar asciiOnly) ++ ['"']

/-- A new line at this level of nesting; nothing in a text on one line. -/
def Style.newline (style : Style) (level : Nat) : List Char :=
  match style.indent with
  | none => []
  | some width => '\n' :: List.replicate (width * level) ' '

/-- Parts between brackets, where the brackets stand at this level of nesting. -/
def Style.bracket (style : Style) (level : Nat) (left right : Char) (parts : List (List Char)) :
    List Char :=
  match parts with
  | [] => [left, right]
  | _ =>
    let between := style.separator.toList ++ style.newline (level + 1)
    left :: style.newline (level + 1) ++ between.intercalate parts ++ style.newline level ++ [right]

/-- Written members in the order of the style. -/
def Style.arrange (style : Style) (members : List (String × List Char)) :
    List (String × List Char) :=
  if style.sortMembers then members.mergeSort fun a b => decide (a.1 ≤ b.1) else members

/-- A written member. -/
def Style.member (style : Style) (name : String) (value : List Char) : List Char :=
  quote style.asciiOnly name ++ style.colon.toList ++ value

mutual
/-- The characters of a value that stands at this level of nesting. -/
def write (style : Style) (level : Nat) : Json → List Char
  | .null => "null".toList
  | .bool true => "true".toList
  | .bool false => "false".toList
  | .int value => (toString value.value).toList
  | .double value => value.text "NaN" "Infinity"
  | .str text => quote style.asciiOnly text
  | .arr items => style.bracket level '[' ']' (writeItems style (level + 1) items)
  | .obj members =>
    style.bracket level '\x7b' '\x7d'
      ((style.arrange (writeMembers style (level + 1) members)).map fun (name, value) =>
        style.member name value)

/-- The characters of each item. -/
def writeItems (style : Style) (level : Nat) : List Json → List (List Char)
  | [] => []
  | item :: rest => write style level item :: writeItems style level rest

/-- The characters of each member's value, beside its name. -/
def writeMembers (style : Style) (level : Nat) :
    List (String × Json) → List (String × List Char)
  | [] => []
  | (name, value) :: rest => (name, write style level value) :: writeMembers style level rest
end

/-- The text of a value. -/
def render (style : Style) (value : Json) : String :=
  String.ofList (write style 0 value)

end SchemaPress.Json
