import SchemaPress.Json.Basic
import SchemaPress.Text.Basic

/-!
# JSON values as they are read

A JSON text may escape one half of a surrogate pair without the other, so what is read need not be a
`Json`: its texts are lists of code points, and some of these are no characters. Such a value can be
handed on, and parts of it replaced, but no file holds it, since a half has no UTF-8. `Raw.toJson?` is the
value without halves, if it is one.
-/

namespace SchemaPress

/-- A code point of a text that is read: a character, or half of a surrogate pair. -/
inductive CodePoint where
  | char (c : Char)
  /-- The half with the code unit `0xD800 + offset`. -/
  | half (offset : Fin 0x800)
deriving DecidableEq, Repr

/-- The character, unless it is half of one. -/
def CodePoint.char? : CodePoint → Option Char
  | .char c => some c
  | .half _ => none

/-- A text that is read. -/
abbrev RawText : Type := List CodePoint

namespace RawText

/-- The text, if all of it are characters. -/
def toString? (text : RawText) : Option String :=
  (text.mapM CodePoint.char?).map String.ofList

/-- The code points of a text. -/
def ofString (text : String) : RawText :=
  text.toList.map .char

/-- Whether the text is made of blank characters. -/
def isBlank (text : RawText) : Bool :=
  text.all fun point => point.char?.any Text.isBlank

end RawText

/-- A JSON value as it is read. -/
inductive Raw where
  | null
  | bool (value : Bool)
  | int (value : Integer)
  | double (value : Double)
  | str (text : RawText)
  | arr (items : List Raw)
  | obj (members : List (RawText × Raw))
deriving Inhabited

/-- The members of an object that is read, in order, each name once. -/
abbrev RawMembers : Type := List (RawText × Raw)

namespace Raw

mutual
/-- The value, if all of its texts are made of characters. -/
def toJson? : Raw → Option Json
  | .null => some .null
  | .bool value => some (.bool value)
  | .int value => some (.int value)
  | .double value => some (.double value)
  | .str text => text.toString?.map .str
  | .arr items => (itemsToJson? items).map .arr
  | .obj members => (membersToJson? members).map .obj

/-- The items, if all texts in them are made of characters. -/
def itemsToJson? : List Raw → Option (List Json)
  | [] => some []
  | item :: rest => do return (← toJson? item) :: (← itemsToJson? rest)

/-- The members, if all texts in them are made of characters. -/
def membersToJson? : List (RawText × Raw) → Option Members
  | [] => some []
  | (name, value) :: rest => do
    return (← name.toString?, ← toJson? value) :: (← membersToJson? rest)
end

/-- The member of an object that is read; other values have none. -/
def get? (value : Raw) (name : String) : Option Raw :=
  match value with
  | .obj members => members.lookup (.ofString name)
  | _ => none

/-- The kind of a value in words. -/
def kindName : Raw → String
  | .null => "NoneType"
  | .bool _ => "bool"
  | .int _ => "int"
  | .double _ => "float"
  | .str _ => "str"
  | .arr _ => "list"
  | .obj _ => "dict"

end Raw

namespace Json

mutual
/-- The value as it is read. -/
def toRaw : Json → Raw
  | .null => .null
  | .bool value => .bool value
  | .int value => .int value
  | .double value => .double value
  | .str text => .str (.ofString text)
  | .arr items => .arr (itemsToRaw items)
  | .obj members => .obj (membersToRaw members)

/-- The items as they are read. -/
def itemsToRaw : List Json → List Raw
  | [] => []
  | item :: rest => toRaw item :: itemsToRaw rest

/-- The members as they are read. -/
def membersToRaw : List (String × Json) → RawMembers
  | [] => []
  | (name, value) :: rest => (.ofString name, toRaw value) :: membersToRaw rest
end

end Json

end SchemaPress
