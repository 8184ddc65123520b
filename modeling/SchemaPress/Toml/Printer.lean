import SchemaPress.Toml.Basic

/-!
# Writing a document

A document is written item after item. A table that was read keeps the title of its header; the other
names are put together on the way down: an entry of a dotted table stands behind the names of the
tables above it, and the header of an array of tables behind the name of the table that holds it.
-/

namespace SchemaPress.Toml

/-- Whether a text stops within a line on which something stands. -/
def endsWithinLine (text : String) : Bool :=
  match text.toList.reverse.dropWhile (· == ' ') with
  | [] => false
  | c :: _ => c != '\n'

/-! ### Headers -/

namespace Header

/-- The header as it is written. One that closes no line does so if keys follow it. -/
def line (header : Header) (title : String) (hasKeys : Bool) : String :=
  header.indent ++ "[" ++ title ++ "]" ++ header.lineEnd.text ++
    (if hasKeys && header.lineEnd.newline.isEmpty then "\n" else "")

/-- The header of an element of an array of tables as it is written. -/
def elementLine (header : Header) (title : String) : String :=
  header.indent ++ "[[" ++ title ++ "]]" ++ header.lineEnd.text

end Header

/-- Whether the item makes a table without a header of its own need one. -/
def Item.needsHeader : Item → Bool
  | .comment _ _ => true
  | .pair _ _ _ => true
  | _ => false

/-- What stands in front of the body of a table. -/
def Header.front (header : Header) (title : String) (items : List Item) : String :=
  if header.origin = .header || (header.origin = .implied && items.any Item.needsHeader) then
    header.line title (items.any fun item => item.name?.isSome)
  -- A table that is not shown may still be set apart from what is in front of it.
  else if header.indent = "\n" then "\n"
  else ""

/-! ### Bodies -/

/-- Where items stand. -/
structure Place where
  /-- The name of the table they are in. -/
  table : Option String := none
  /-- Whether that is a dotted table. -/
  dotted : Bool := false
  /-- Whether a table starts on a line of its own. -/
  aligned : Bool := true

namespace Place

/-- The name of a table below. -/
def below (place : Place) (key : KeyPart) : String :=
  match place.table with
  | some name => name ++ "." ++ key.text
  | none => key.text

/-- The name of an entry or of a dotted table, which is spelled in full in dotted tables only. -/
def entry (place : Place) (key : KeyPart) : String :=
  if place.dotted then place.below key else key.text

end Place

/-- Whether a comma stands in front of the next entry. -/
def isCommaNext : List Item → Bool
  | [] => false
  | .comma :: _ => true
  | item :: rest => item.name?.isNone && isCommaNext rest

/-- Whether an entry stands right here, without blanks in front of it. -/
def isEntryNext : List Item → Bool
  | .hole :: rest => isEntryNext rest
  | .pair _ layout _ :: _ => layout.indent.isEmpty
  | .table _ _ :: _ => true
  | _ => false

/-- The comma to put behind an entry of an inline table: one that stands there already is not put
there again, and the last entry has none. -/
def commaBehind (rest : List Item) : String :=
  if isCommaNext rest || rest.all fun item => item.name?.isNone then ""
  else if isEntryNext rest then ", "
  else ","

mutual

/-- The value as it is written. -/
def Value.text : Value → String
  | .plain text => text
  | .inline items => "\x7b" ++ inlineText false items ++ "\x7d"

/-- The items of an inline table as they are written, where `due` says that an entry stands in front
whose comma is still to come. A comma that has lost its entry is left out. -/
def inlineText (due : Bool) : List Item → String
  | [] => ""
  | .comma :: rest => (if due then "," else "") ++ inlineText false rest
  | .pair key layout value :: rest =>
    layout.indent ++ key.text ++ layout.separator ++ value.text ++ layout.lineEnd.text ++
      commaBehind rest ++ inlineText (isCommaNext rest) rest
  | .table key (.mk _ items) :: rest =>
    key.text ++ "." ++ bodyText {} "" items ++ commaBehind rest ++
      inlineText (isCommaNext rest) rest
  | .blank text :: rest => text ++ inlineText due rest
  | _ :: rest => inlineText due rest

/-- The items of a body behind a text. -/
def bodyText (place : Place) (text : String) : List Item → String
  | [] => text
  | item :: rest => bodyText place (text ++ item.text place (endsWithinLine text)) rest

/-- An item as it is written, where `within` says that it follows on the same line. -/
def Item.text (place : Place) (within : Bool) : Item → String
  | .blank text => text
  | .comment indent lineEnd => indent ++ lineEnd.text
  | .comma => ""
  | .hole => ""
  | .pair key layout value =>
    layout.indent ++ place.entry key ++ layout.separator ++ value.text ++ layout.lineEnd.text
  | .table key (.mk header items) =>
    let name := if header.origin = .dotted then place.entry key else place.below key
    let title := header.title.getD name
    (if place.aligned && within then "\n" else "") ++
      bodyText { table := some title, dotted := header.origin = .dotted }
        (header.front title items) items
  | .array key elements => elementsText (place.below key) elements

/-- The elements of an array of tables as they are written. -/
def elementsText (name : String) : List Table → String
  | [] => ""
  | .mk header items :: rest =>
    bodyText { table := some name, aligned := false } (header.elementLine name) items ++
      elementsText name rest

end

/-- The document as it is written. -/
def Document.text (document : Document) : String :=
  bodyText {} "" document.items

end SchemaPress.Toml
