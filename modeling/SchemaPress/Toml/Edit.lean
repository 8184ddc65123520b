import SchemaPress.Manifest
import SchemaPress.Toml.Parser
import SchemaPress.Toml.Printer

/-!
# Changing and building documents

`Document.set` gives an entry of a table at the root a new text, and touches nothing else. An entry
with a value keeps its place, its key and its comment. One that is missing goes behind the last line
of the table's own entries, and an entry that is a table is taken out first.

A table at the root may stand there in several pieces. The new entry goes to the piece that holds the
old one, else to the first piece with an entry of its own, else to the first one with a header, else to
the first piece.

`Toml.kit` is the library that the program runs with.
-/

namespace SchemaPress.Toml

/-- An entry of a table at the root, and its new value. -/
structure Assignment where
  /-- The table. -/
  table : String
  /-- The name of the entry. -/
  name : String
  /-- The value as it is written. -/
  value : String

/-! ### Lines -/

/-- Whether the item is a table or an array of tables whose entries stand on lines of their own. -/
def Item.isBlock : Item → Bool
  | .table _ inner => inner.header.origin ≠ .dotted
  | .array _ _ => true
  | _ => false

/-- Whether nothing stands there. -/
def Item.isVacant : Item → Bool
  | .blank _ => true
  | .hole => true
  | _ => false

mutual

/-- The item with an end of its last line. -/
def Item.closed : Item → Item
  | .pair key layout value => .pair key { layout with lineEnd := layout.lineEnd.closed } value
  | .comment indent lineEnd => .comment indent lineEnd.closed
  | .table key (.mk header items) => .table key (.mk header (lastClosed items))
  | item => item

/-- The items, the last of them with an end of its last line. -/
def lastClosed : List Item → List Item
  | [] => []
  | [last] => [last.closed]
  | item :: next :: rest => item :: lastClosed (next :: rest)

end

/-- The item with an empty line in front of it, if it is a table. -/
def Item.spaced : Item → Item
  | .table key (.mk header items) =>
    let indent := if header.indent.toList.contains '\n' then header.indent else "\n" ++ header.indent
    .table key (.mk { header with indent } items)
  | item => item

/-- The items with a new line behind the last line of their own entries on which something stands. -/
def withLine (line : Item) (items : List Item) : List Item :=
  -- Entries of the table's own end where the first table below it begins.
  let own := items.takeWhile fun item => !item.isBlock
  let front := (own.reverse.dropWhile Item.isVacant).reverse
  let rest := match items.drop front.length with
    | [] => []
    | next :: rest => next.spaced :: rest
  lastClosed front ++ line :: rest

namespace Assignment

/-! ### Tables -/

/-- The entry as a new item. -/
def item (set : Assignment) (layout : Layout) : Item :=
  .pair ⟨set.name, set.name⟩ layout (.plain set.value)

/-- Whether the items hold the entry with a value. -/
def isValueIn (set : Assignment) (items : List Item) : Bool :=
  items.any fun item => item.isNamed set.name && item matches .pair _ _ _

/-- The items with the new value in the place of the old one. -/
def replacing (set : Assignment) (items : List Item) : List Item :=
  items.map fun item =>
    match item with
    | .pair key layout value =>
      .pair key layout (if key.name = set.name then .plain set.value else value)
    | item => item

/-- The items without the entry. -/
def emptied (set : Assignment) (items : List Item) : List Item :=
  items.map fun item => if item.isNamed set.name then .hole else item

/-- The table with the entry. A line that is new takes on the indentation of the header. -/
def inTable (set : Assignment) : Table → Table
  | .mk header items =>
    .mk header <|
      -- Three cases: a value keeps its place, a table gives way to a line, a new line is indented.
      if set.isValueIn items then set.replacing items
      else if items.any (Item.isNamed set.name) then withLine (set.item {}) (set.emptied items)
      else withLine (set.item { indent := spacesOf header.indent }) items

/-- The items of an inline table with the entry, where `indent` stands in front of the table's own
line. -/
def inInline (set : Assignment) (indent : String) (items : List Item) : List Item :=
  if set.isValueIn items then set.replacing items
  else
    let isThere := items.any (Item.isNamed set.name)
    set.emptied items ++
      [set.item { indent := if isThere then "" else spacesOf indent, lineEnd := {} }]

/-! ### Pieces -/

/-- Whether the piece has an entry with a value. -/
def hasValue (piece : Table) : Bool :=
  piece.items.any fun item => item matches .pair _ _ _

/-- Changes the first piece with a property. Pieces that were taken out are `none`. -/
def changeFirst (p : Table → Bool) (change : Table → Table) :
    List (Option Table) → List (Option Table)
  | [] => []
  | none :: rest => none :: changeFirst p change rest
  | some piece :: rest =>
    if p piece then some (change piece) :: rest else some piece :: changeFirst p change rest

/-- The pieces with the entry in one that has none yet. -/
def inPieces (set : Assignment) (pieces : List (Option Table)) : List (Option Table) :=
  let isAny (p : Table → Bool) : Bool := pieces.any fun piece => piece.any p
  if isAny hasValue then changeFirst hasValue set.inTable pieces
  else if isAny (·.header.origin = .header) then
    changeFirst (·.header.origin = .header) set.inTable pieces
  else changeFirst (fun _ => true) set.inTable pieces

/-- The pieces with the entry. Of several pieces that hold it only the first one is left. -/
def overPieces (set : Assignment) (pieces : List Table) : List (Option Table) :=
  let holds (piece : Table) : Bool := piece.items.any (Item.isNamed set.name)
  match pieces.findIdx? holds with
  | none => set.inPieces (pieces.map some)
  | some first =>
    let front := (pieces.take first).map some
    -- Whatever else is in a later piece that holds the entry is lost with it.
    let behind := (pieces.drop (first + 1)).map fun piece => if holds piece then none else some piece
    match pieces[first]? with
    | none => front ++ behind
    | some piece =>
      if set.isValueIn piece.items then front ++ some (set.inTable piece) :: behind
      else
        set.inPieces (front ++ some (.mk piece.header (set.emptied piece.items)) :: behind)

/-- The items with changed pieces of the table. -/
def putBack (set : Assignment) : List Item → List (Option Table) → List Item
  | .table key table :: rest, piece :: pieces =>
    if key.name = set.table then
      (match piece with
        | some piece => .table key piece
        | none => .hole) :: putBack set rest pieces
    else .table key table :: putBack set rest (piece :: pieces)
  | item :: rest, pieces => item :: putBack set rest pieces
  | [], _ => []

end Assignment

/-- Whether the item is an inline table of this name. -/
def Item.isInline (name : String) (item : Item) : Bool :=
  item.isNamed name && item matches .pair _ _ (.inline _)

namespace Document

/-- The table of this name at the root, by its name. Pieces that cannot be read as one are a crash. -/
def table? (document : Document) (name : String) : Except Crash (Option String) :=
  match pieces name document.items with
  | [] => .ok (if document.items.any (Item.isInline name) then some name else none)
  | [_] => .ok (some name)
  | _ => if areJoinable deepest name document.items then .ok (some name) else .error .nameTaken

/-- The document with the entry. -/
def set (document : Document) (set : Assignment) : Document :=
  match pieces set.table document.items with
  | [] =>
    ⟨document.items.map fun item =>
      match item with
      | .pair key layout (.inline inner) =>
        if key.name = set.table then .pair key layout (.inline (set.inInline layout.indent inner))
        else item
      | item => item⟩
  | [table] => ⟨set.putBack document.items [some (set.inTable table)]⟩
  | pieces => ⟨set.putBack document.items (set.overPieces pieces)⟩

end Document

/-! ### New documents -/

/-- A name as a key. -/
def keyOf (name : String) : KeyPart :=
  ⟨name, if !name.isEmpty && name.toList.all isBare then name else quote name⟩

mutual

/-- The value of an entry on one line. -/
def valueOf : TomlEntry → Value
  | .text text => .plain (quote text)
  | .texts texts => .plain ("[" ++ ", ".intercalate (texts.map quote) ++ "]")
  | .table entries | .inlineTable entries => .inline (entryItems entries)

/-- The items of entries on one line. -/
def entryItems : List (String × TomlEntry) → List Item
  | [] => []
  | (name, entry) :: rest =>
    .pair (keyOf name) { lineEnd := {} } (valueOf entry) :: entryItems rest

end

mutual

/-- The item of an entry, where `first` says that none is in front of it. -/
def blockOf (first : Bool) (name : String) : TomlEntry → Item
  | .table entries =>
    let indent := if first then "" else "\n"
    .table (keyOf name) (.mk { origin := .header, indent } (blocksOf true entries))
  | entry => .pair (keyOf name) {} (valueOf entry)

/-- The items of entries. -/
def blocksOf (first : Bool) : List (String × TomlEntry) → List Item
  | [] => []
  | (name, entry) :: rest => blockOf first name entry :: blocksOf false rest

end

/-- The library. -/
def kit : TomlKit where
  Document := Document
  Table := String
  build entries := ⟨blocksOf true entries⟩
  parse text :=
    match Document.parse? text with
    | some document => .ok document
    | none => .error (.error ())
  table? := Document.table?
  assign document table name value := .ok (document.set ⟨table, name, quote value⟩)
  text := Document.text

end SchemaPress.Toml
