import SchemaPress.Json.Height
import SchemaPress.Json.Writer
import SchemaPress.Release.Crash
import SchemaPress.Text.Literal

/-!
# Object schemas

An object schema is a JSON object. While its `allOf` is folded into it, its properties may come to be
named by values that are no texts: a list of pairs is accepted for an object there, and the first
part of a pair may be a number or another scalar. Such properties are kept beside the members, in
`Schema.table`; in all ordinary cases there is no table and a schema is just its members.
-/

namespace SchemaPress

/-- The name of a property. -/
inductive PropertyName where
  /-- A text. -/
  | text (name : String)
  /-- A scalar that is no text. -/
  | scalar (value : Json)

namespace PropertyName

/-- The name as a JSON value. -/
def toJson : PropertyName → Json
  | .text name => .str name
  | .scalar value => value

/-- The name that a value can be; containers are no names. -/
def ofJson? : Json → Option PropertyName
  | .str name => some (.text name)
  | .arr _ => none
  | .obj _ => none
  | value => some (.scalar value)

/-- Whether two names name the same property. Numbers are compared by value. -/
def same (a b : PropertyName) : Bool :=
  a.toJson.same b.toJson

/-- The name inside a sentence. -/
def display (name : PropertyName) : String :=
  name.toJson.display

end PropertyName

/-- Properties in order, each name once. -/
abbrev PropertyTable : Type := List (PropertyName × Json)

namespace PropertyTable

/-- Sets a property: in its place when the name is there, at the end otherwise. -/
def put : PropertyTable → PropertyName → Json → PropertyTable
  | [], name, value => [(name, value)]
  | (key, old) :: rest, name, value =>
    if key.same name then (key, value) :: rest else (key, old) :: put rest name value

/-- Sets the properties of another table, one after the other. -/
def putAll (table : PropertyTable) : PropertyTable → PropertyTable
  | [] => table
  | (name, value) :: rest => (table.put name value).putAll rest

/-- The table of an object's members. -/
def ofMembers (members : Members) : PropertyTable :=
  members.map fun (name, value) => (.text name, value)

/-- The members that a table stands for, if all its names are texts. -/
def toMembers? : PropertyTable → Option Members
  | [] => some []
  | (.text name, value) :: rest => (toMembers? rest).map ((name, value) :: ·)
  | (.scalar _, _) :: _ => none

/-- The greatest height of the properties. -/
def height : PropertyTable → Nat
  | [] => 0
  | (_, value) :: rest => max value.height (height rest)

end PropertyTable

/-- An object schema. -/
structure Schema where
  /-- The members, without `properties` if there is a table of them. -/
  members : Members
  /-- The properties, where some of their names are no texts. -/
  table : Option PropertyTable := none

namespace Schema

/-- The member of this name. -/
def get? (schema : Schema) (name : String) : Option Json :=
  Members.get? schema.members name

/-- Whether there is a member of this name. -/
def has (schema : Schema) (name : String) : Bool :=
  Members.has schema.members name

/-- Whether the schema speaks of properties. -/
def hasProperties (schema : Schema) : Bool :=
  schema.table.isSome || schema.has "properties"

/-- The title, `null` if there is none. -/
def title (schema : Schema) : Json :=
  (schema.get? "title").getD .null

/-! ### Structure -/

/-- Whether the names of a table have an order: texts among each other, numbers among each other. -/
def sortable (table : PropertyTable) : Bool :=
  table.length ≤ 1 ||
    table.all (fun (name, _) => match name with
      | .text _ => true
      | .scalar _ => false) ||
    table.all (fun (name, _) => match name with
      | .scalar (.bool _) | .scalar (.int _) | .scalar (.double _) => true
      | _ => false)

/-- `2 ^ 1074` times the number that a name is. -/
def numberOf : PropertyName → Int
  | .scalar (.bool value) => if value then (Nat.pow 2 1074 : Nat) else 0
  | .scalar (.int value) => value.value * (Nat.pow 2 1074 : Nat)
  | .scalar (.double value) => value.scaled?.getD 0
  | _ => 0

/-- Whether one name is sorted in front of another or with it. -/
def nameLe : PropertyName → PropertyName → Bool
  | .text a, .text b => decide (a ≤ b)
  | a, b => decide (numberOf a ≤ numberOf b)

/-- A name as the key of a JSON object. -/
def keyText (name : PropertyName) : String :=
  match name with
  | .text text => text
  | .scalar value => value.render .sorted

/-- The characters of a table, sorted by name. -/
def writeTable (table : PropertyTable) : List Char :=
  let rows := table.mergeSort fun a b => nameLe a.1 b.1
  Json.Style.sorted.bracket 1 '\x7b' '\x7d' (rows.map fun (name, value) =>
    Json.Style.sorted.member (keyText name) (value.write .sorted 2))

/-- The text by which schemas of one structure are recognised: the schema as JSON with sorted
members. Two schemas have the same text exactly when they differ in the order of members only. -/
def structureText (schema : Schema) : Except Crash String :=
  match schema.table with
  | none => .ok ((Json.obj schema.members).render .sorted)
  | some table =>
    if sortable table then
      let written := ("properties", writeTable table) ::
        Json.writeMembers .sorted 1 (Members.erase schema.members "properties")
      .ok (String.ofList (Json.Style.sorted.bracket 0 '\x7b' '\x7d'
        ((Json.Style.sorted.arrange written).map fun (name, value) =>
          Json.Style.sorted.member name value)))
    else .error .wrongKind

end Schema

end SchemaPress
