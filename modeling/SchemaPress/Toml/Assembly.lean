import SchemaPress.Toml.Basic

/-!
# Putting a document together

A document is read line by line, and its items join their tables one after the other. Two items of one
name meet: then the later one is refused, stands beside the earlier one as another piece of the same
table, or is merged into it. `meeting` decides by what the two are.

Pieces that stand apart have to make one table together, so they are tried out by joining what is in
them (`areSound`). One table may only be read from pieces none of which goes on with an array of tables that
another piece holds (`areJoinable`).
-/

namespace SchemaPress.Toml

/-! ### Items that meet -/

/-- What becomes of an item whose name is taken. -/
inductive Meeting where
  /-- It must not stand there. -/
  | refused
  /-- It is another piece of the same table. -/
  | beside
  /-- Its own items become part of the one that is there. -/
  | merged
deriving DecidableEq, Repr

/-- What becomes of an item `new` where `old` has its name. Two tables that only stand above others
are merged if no other table came between them (`inTurn`). An array of tables takes in tables below
its last element. -/
def meeting (inTurn : Bool) (old new : Item) : Meeting :=
  match old, new with
  | .table _ old, .table _ new =>
    match old.header.origin, new.header.origin with
    -- A header may go on below a table whose own header came before.
    | .header, .implied => .beside
    -- But it is not given twice, and no dotted key adds to it.
    | .header, _ => .refused
    | .dotted, .header => .refused
    | .implied, .implied => if inTurn then .merged else .beside
    | _, _ => .beside
  | .array _ _, .table _ new => if new.header.origin = .implied then .merged else .refused
  | .array _ _, .array _ _ => .merged
  | _, _ => .refused

/-- The last item of a name. -/
def lastNamed? (name : String) (items : List Item) : Option Item :=
  items.reverse.find? (Item.isNamed name)

/-- Whether the last table among the items has this name. Arrays of tables do not count. -/
def isLastTable (name : String) (items : List Item) : Bool :=
  match items.reverse.find? fun item => item matches .table _ _ with
  | some item => item.isNamed name
  | none => false

/-- The items with another one in the place of the last of its name. -/
def replaceLast (name : String) (new : Item) (items : List Item) : List Item :=
  let behind := (items.reverse.takeWhile fun item => !item.isNamed name).reverse
  items.take (items.length - behind.length - 1) ++ new :: behind

/-! ### Indentation -/

/-- The first run of spaces in the blanks in front of a header. -/
def spacesOf (indent : String) : String :=
  String.ofList ((indent.toList.dropWhile (· ≠ ' ')).takeWhile (· = ' '))

/-- Blanks with more spaces in them, in front of those that are there. -/
def indented (spaces indent : String) : String :=
  let front := indent.toList.takeWhile (· ≠ ' ')
  String.ofList front ++ spaces ++ String.ofList (indent.toList.drop front.length)

/-- The item, indented as what belongs to a table with this header. -/
def Item.indentedBelow (header : Header) (item : Item) : Item :=
  let spaces := spacesOf header.indent
  match item with
  | pair key layout value => pair key { layout with indent := indented spaces layout.indent } value
  | table key (.mk inner items) =>
    table key (.mk { inner with indent := indented spaces inner.indent } items)
  | item => item

/-! ### Pieces -/

/-- The pieces of a table. -/
def pieces (name : String) (items : List Item) : List Table :=
  items.filterMap fun item =>
    match item with
    | .table key table => if key.name = name then some table else none
    | _ => none

/-- The names that several items have. -/
def repeatedNames (items : List Item) : List String :=
  let names := items.filterMap Item.name?
  names.eraseDups.filter fun name => names.count name > 1

/-- Whether only tables stand in front of other items of their names. -/
def onlyTablesGoOn : List Item → Bool
  | [] => true
  | item :: rest =>
    (item matches .table _ _ || rest.all fun later => item.name?.isNone || later.name? != item.name?) &&
      onlyTablesGoOn rest

mutual

/-- The items with one more, down to a depth at which tables meet. With `checked`, pieces have to be
sound as soon as they stand side by side. -/
def join (depth : Nat) (checked : Bool) (items : List Item) (item : Item) : Option (List Item) :=
  match depth, item.name? with
  | 0, _ => none
  | _, none => some (items ++ [item])
  | depth + 1, some name =>
    match lastNamed? name items with
    | none => some (items ++ [item])
    | some old =>
      match meeting (isLastTable name items) old item with
      | .refused => none
      | .beside =>
        if checked && !areSound depth name (items ++ [item]) then none else some (items ++ [item])
      | .merged => (merge depth old item).map fun new => replaceLast name new items

/-- An item with the items of another one of its name. -/
def merge (depth : Nat) (old new : Item) : Option Item :=
  match depth, old, new with
  | depth + 1, .table key table, .table _ more => (joinAll depth table more.items).map (.table key)
  | depth + 1, .array key elements, .table _ more => do
    let last ← joinAll depth (← elements.getLast?) more.items
    return .array key (elements.dropLast ++ [last])
  | _, .array key elements, .array _ more => some (.array key (elements ++ more))
  | _, _, _ => none

/-- A table with more items, which are indented like the table. -/
def joinAll (depth : Nat) (table : Table) (items : List Item) : Option Table :=
  match depth with
  | 0 => none
  | depth + 1 =>
    items.foldlM
      (fun table item => do
        let joined ← join depth true table.items item
        match item.name? with
        | none => return .mk table.header joined
        | some name =>
          let last ← lastNamed? name joined
          let joined := replaceLast name (last.indentedBelow table.header) joined
          if areJoinable depth name joined then return .mk table.header joined else none)
      table

/-- Whether the pieces of a table make one table: their items can be joined, and the pieces of each
table among them are sound again. -/
def areSound (depth : Nat) (name : String) (items : List Item) : Bool :=
  match depth with
  | 0 => false
  | depth + 1 =>
    match ((pieces name items).flatMap Table.items).foldlM (join depth false) [] with
    | none => false
    | some joined => (repeatedNames joined).all fun name => areSound depth name joined

/-- Whether the pieces of a table can be read as one table. -/
def areJoinable (depth : Nat) (name : String) (items : List Item) : Bool :=
  match depth with
  | 0 => false
  | depth + 1 =>
    let parts := pieces name items
    let inner := parts.flatMap Table.items
    parts.length < 2 ||
      (onlyTablesGoOn inner && (repeatedNames inner).all fun name => areSound depth name inner)

end

/-- A depth that no table of a document reaches: headers and keys have at most a hundred names each,
and a table is met at most three times on the way down. -/
def deepest : Nat := 1000

/-! ### Tables from lines -/

/-- A header as it was read. -/
structure HeaderLine where
  /-- The blanks in front of the brackets. -/
  indent : String
  /-- Whether the table is an element of an array of tables. -/
  isArray : Bool
  /-- The names that lead to the table. -/
  key : Key
  /-- What follows the brackets. -/
  lineEnd : LineEnd

/-- A line of a document, or the lines of one value. -/
inductive Statement where
  /-- A line of a body. -/
  | item (item : Item)
  /-- A header. -/
  | header (line : HeaderLine)

/-- A header with the lines up to the next one. -/
structure Section where
  /-- The header. -/
  line : HeaderLine
  /-- The lines below it. -/
  items : List Item

/-- The names that lead to the table of a section. -/
def Section.path (part : Section) : List String :=
  part.line.key.path

/-- Adds an item to a table. -/
def Table.add? (table : Table) (item : Item) : Option Table := do
  let items ← join deepest true table.items item
  if item.name?.all fun name => areJoinable deepest name items then return .mk table.header items
  else none

/-- Whether all tables that were written in pieces are sound. -/
def Table.isSound (table : Table) : Bool :=
  (repeatedNames table.items).all fun name => areSound deepest name table.items

/-- An item below the tables that the names above it imply. The first of these tables is not
indented. -/
def Item.under (line : HeaderLine) (indent : String) (item : Item) : Key → Item
  | [] => item
  | key :: rest =>
    table key (.mk { origin := .implied, indent, lineEnd := line.lineEnd }
      [under line line.indent item rest])

/-- The sections that are elements of the same array of tables. -/
def isSibling (first next : Section) : Bool :=
  next.line.isArray && next.path == first.path

mutual

/-- The table of a section with the tables below it, and the sections behind them. -/
def tableOf (fuel : Nat) (part : Section) (rest : List Section) : Option (Table × List Section) := do
  match fuel with
  | 0 => none
  | fuel + 1 =>
    let header : Header :=
      { origin := .header, title := some part.line.key.text, indent := part.line.indent
        lineEnd := part.line.lineEnd }
    let table ← part.items.foldlM Table.add? (.mk header [])
    tableWith fuel part.path table rest

/-- A table with those of the sections that stand below it, and the sections behind them. -/
def tableWith (fuel : Nat) (path : List String) (table : Table) (sections : List Section) :
    Option (Table × List Section) := do
  match fuel, sections with
  | fuel + 1, next :: rest =>
    -- A section below this table is one of its items; any other one ends it.
    if path.isPrefixOf next.path && path ≠ next.path then
      let (item, rest) ← itemOf fuel path.length next rest
      tableWith fuel path (← table.add? item) rest
    else if table.isSound then return (table, next :: rest)
    else none
  | _, sections => if table.isSound then return (table, sections) else none

/-- The item that a section begins in a table whose own path has `above` names, and the sections
behind it. -/
def itemOf (fuel : Nat) (above : Nat) (part : Section) (rest : List Section) :
    Option (Item × List Section) := do
  match fuel, part.line.key.reverse with
  | fuel + 1, last :: _ =>
    let (table, rest) ← tableOf fuel part rest
    -- The names between the table that is read and the section's own name imply tables.
    let between := (part.line.key.drop above).dropLast
    if !part.line.isArray then return ((Item.table last table).under part.line "" between, rest)
    else if between.isEmpty then
      let (more, rest) ← elementsOf fuel part rest
      return (.array last (table :: more), rest)
    else return ((Item.array last [table]).under part.line "" between, rest)
  | _, _ => none

/-- The elements of an array of tables behind the first one, and the sections behind them. -/
def elementsOf (fuel : Nat) (first : Section) (sections : List Section) :
    Option (List Table × List Section) := do
  match fuel, sections with
  | fuel + 1, next :: rest =>
    if isSibling first next then
      let (table, rest) ← tableOf fuel next rest
      let (more, rest) ← elementsOf fuel first rest
      return (table :: more, rest)
    else return ([], next :: rest)
  | _, sections => return ([], sections)

end

/-- The document of these sections behind the items of the root table. -/
def Document.ofSections (fuel : Nat) (items : List Item) (sections : List Section) :
    Option Document := do
  match fuel, sections with
  | fuel + 1, part :: rest =>
    -- Each section is entered by at most four calls inside one another.
    let (item, rest) ← itemOf (4 * sections.length) 0 part rest
    ofSections fuel (← join deepest true items item) rest
  | _, _ => return ⟨items⟩

/-- The lines in front of the first header, and the sections. -/
def Section.split : List Statement → List Item × List Section
  | [] => ([], [])
  | .item item :: rest =>
    let (items, sections) := split rest
    (item :: items, sections)
  | .header line :: rest =>
    let (items, sections) := split rest
    ([], ⟨line, items⟩ :: sections)

/-- The document that lines make, if no name is defined where it must not be. -/
def Document.ofStatements? (statements : List Statement) : Option Document := do
  let (items, sections) := Section.split statements
  ofSections (sections.length + 1) (← items.foldlM (join deepest true) []) sections

end SchemaPress.Toml
