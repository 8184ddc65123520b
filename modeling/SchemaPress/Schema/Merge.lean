import SchemaPress.Schema.Basic

/-!
# Folding `allOf` into a schema

The parts of an `allOf` are laid into the schema that holds it: properties are united, a later one
overriding an earlier one of its name, lists of required properties are joined, and any other member
of a part is taken unless the schema has one of that name already. Since a part may hold an `allOf`
in turn, the result may, and is folded again.
-/

namespace SchemaPress.Schema

/-- The property that a pair of a name and a property is. -/
def rowOf (pair : Json) : Except Crash (PropertyName × Json) :=
  match pair.elements? with
  | some [name, property] =>
    match PropertyName.ofJson? name with
    | some name => .ok (name, property)
    | none => .error .wrongKind
  | some _ => .error .badValue
  | none => .error .wrongKind

/-- The properties that a value lists: the members of an object, or pairs of a name and a property, of which the
last one of a name counts. -/
def rowsOf (value : Json) : Except Crash PropertyTable :=
  match value with
  | .obj members => .ok (PropertyTable.ofMembers members)
  | value =>
    match value.elements? with
    | some pairs => do return PropertyTable.putAll [] (← pairs.mapM rowOf)
    | none => .error .wrongKind

/-- `rowsOf`, where a value that says nothing lists nothing. -/
def ownRows (value : Option Json) : Except Crash PropertyTable :=
  match value with
  | some value => if value.isTruthy then rowsOf value else .ok []
  | none => .ok []

/-- The elements of a value. -/
def elementsOf (value : Json) : Except Crash (List Json) :=
  match value.elements? with
  | some elements => .ok elements
  | none => .error .wrongKind

/-- `elementsOf`, where a value that says nothing has none. -/
def ownElements (value : Option Json) : Except Crash (List Json) :=
  match value with
  | some value => if value.isTruthy then elementsOf value else .ok []
  | none => .ok []

/-- Whether a value is among others. -/
def holds (values : List Json) (value : Json) : Bool :=
  values.any (·.same value)

/-- The values of both lists, without repeating one of the first list or of the second. -/
def join (values others : List Json) : List Json :=
  others.foldl (fun values value => if holds values value then values else values ++ [value]) values

/-- A schema while parts are laid into it. -/
structure Merging where
  /-- The members so far; `properties` and `required` are only the schema's own. -/
  members : Members
  /-- The properties so far. -/
  rows : PropertyTable
  /-- The required properties so far. -/
  required : List Json

/-- Lays a member of a part in. -/
def Merging.add (merging : Merging) (name : String) (value : Json) : Except Crash Merging :=
  if name = "properties" then do
    let rows ← rowsOf value
    return { merging with rows := merging.rows.putAll rows }
  else if name = "required" then do
    let elements ← elementsOf value
    return { merging with required := join merging.required elements }
  else return { merging with members := Members.putIfAbsent merging.members name value }

/-- Lays members of a part in. -/
def Merging.addMembers (merging : Merging) : Members → Except Crash Merging
  | [] => .ok merging
  | (name, value) :: rest => do (← merging.add name value).addMembers rest

/-- Lays parts in; a part that is no object has no members. -/
def Merging.addParts (merging : Merging) : List Json → Except Crash Merging
  | [] => .ok merging
  | .obj members :: rest => do (← merging.addMembers members).addParts rest
  | _ :: rest => merging.addParts rest

/-- The members with a type: a schema with properties is one of objects unless it says otherwise. -/
def Merging.typed (merging : Merging) : Members :=
  if merging.rows.isEmpty then merging.members
  else Members.putIfAbsent merging.members "type" (.str "object")

/-- The members with the type and the list of required properties. -/
def Merging.complete (merging : Merging) : Members :=
  if merging.required.isEmpty then merging.typed
  else Members.put merging.typed "required" (.arr merging.required)

/-- The schema with everything laid in. -/
def Merging.finish (merging : Merging) : Schema :=
  if merging.rows.isEmpty then ⟨merging.complete, none⟩
  else
    match merging.rows.toMembers? with
    | some properties => ⟨Members.put merging.complete "properties" (.obj properties), none⟩
    | none => ⟨Members.erase merging.complete "properties", some merging.rows⟩

/-- The schema before anything is laid in. -/
def startMerging (schema : Schema) : Except Crash Merging := do
  let rows ← match schema.table with
    | some table => pure table
    | none => ownRows (schema.get? "properties")
  let required ← ownElements (schema.get? "required")
  return ⟨Members.erase schema.members "allOf", rows, required⟩

/-- The schema with the parts of its `allOf` folded into it. -/
def mergeAllOf (schema : Schema) (allOf : Json) : Except Crash Schema := do
  let merging ← schema.startMerging
  let parts ← elementsOf allOf
  return (← merging.addParts parts).finish

end SchemaPress.Schema
