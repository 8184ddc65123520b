import SchemaPress.Decimal.Double

/-!
# JSON values

A JSON value keeps the order of its members, tells integers from doubles, and so can be read and written
again without loss. Integers are as large as their decimals may be long (`Integer`).
-/

namespace SchemaPress

/-- An integer of no more than 4300 decimal digits. Longer ones are neither read nor written. -/
structure Integer where
  /-- The number. -/
  value : Int
  /-- Its digits. -/
  short : (Nat.toDigits 10 value.natAbs).length ≤ 4300
deriving DecidableEq

namespace Integer

/-- The integer of a number, if that is not too long. -/
def ofInt? (value : Int) : Option Integer :=
  if h : (Nat.toDigits 10 value.natAbs).length ≤ 4300 then some ⟨value, h⟩ else none

instance : OfNat Integer 0 := ⟨⟨0, by decide⟩⟩

instance : OfNat Integer 1 := ⟨⟨1, by decide⟩⟩

instance : Inhabited Integer := ⟨0⟩

theorem ofInt?_value (integer : Integer) : ofInt? integer.value = some integer := by
  unfold ofInt?
  rw [dif_pos integer.short]

end Integer

/-- A JSON value. -/
inductive Json where
  | null
  | bool (value : Bool)
  | int (value : Integer)
  | double (value : Double)
  | str (text : String)
  | arr (items : List Json)
  | obj (members : List (String × Json))
deriving Inhabited

/-- Sets what stands under a key: in its place when the key is there, at the end otherwise. -/
def assign {κ ν : Type} [BEq κ] : List (κ × ν) → κ → ν → List (κ × ν)
  | [], key, value => [(key, value)]
  | (other, old) :: rest, key, value =>
    if other == key then (other, value) :: rest else (other, old) :: assign rest key value

/-- The members of an object, in order, each name once. -/
abbrev Members : Type := List (String × Json)

namespace Members

/-- The member of this name. -/
def get? (members : Members) (name : String) : Option Json :=
  members.lookup name

/-- Whether there is a member of this name. -/
def has (members : Members) (name : String) : Bool :=
  members.any fun (key, _) => key == name

/-- Sets a member. -/
def put (members : Members) (name : String) (value : Json) : Members :=
  assign members name value

/-- Adds a member unless the name is there. -/
def putIfAbsent (members : Members) (name : String) (value : Json) : Members :=
  if members.has name then members else members ++ [(name, value)]

/-- The members of other names. -/
def erase (members : Members) (name : String) : Members :=
  members.filter fun (key, _) => key != name

end Members

namespace Json

/-- The member of an object; other values have none. -/
def get? (value : Json) (name : String) : Option Json :=
  match value with
  | .obj members => members.lookup name
  | _ => none

/-- Whether a value says anything: `null`, `false`, zeros, the empty text and empty containers do
not. -/
def isTruthy : Json → Bool
  | .null => false
  | .bool value => value
  | .int value => value.value != 0
  | .double value => !value.isZero
  | .str text => !text.isEmpty
  | .arr items => !items.isEmpty
  | .obj members => !members.isEmpty

/-- The text of a text value. -/
def str? : Json → Option String
  | .str text => some text
  | _ => none

/-- The elements of a value that can be gone through: the items of an array, the characters of a text,
the names of an object's members. -/
def elements? : Json → Option (List Json)
  | .arr items => some items
  | .str text => some (text.toList.map fun c => .str (String.singleton c))
  | .obj members => some (members.map fun (name, _) => .str name)
  | _ => none

/-- Whether the value is an object. -/
def isObj : Json → Bool
  | .obj _ => true
  | _ => false

/-- Numbers are compared by value across kinds, where truth values count as one and zero; `exact`
decides whether NaN is itself. -/
def eqScalar (exact : Bool) : Json → Json → Bool
  | .null, .null => true
  | .bool a, .bool b => a == b
  | .bool a, .int b => (if a then 1 else 0) == b.value
  | .int a, .bool b => a.value == (if b then 1 else 0)
  | .bool a, .double b => b.eqInt (if a then 1 else 0)
  | .double a, .bool b => a.eqInt (if b then 1 else 0)
  | .int a, .int b => a.value == b.value
  | .int a, .double b => b.eqInt a.value
  | .double a, .int b => a.eqInt b.value
  | .double a, .double b => Double.numEq a b || (exact && a == .nan && b == .nan)
  | .str a, .str b => a == b
  | _, _ => false

mutual
/-- Whether two values are the same as members of a collection: numbers by value, arrays item by
item, objects member by member in any order. -/
def same : Json → Json → Bool
  | .arr items, .arr others => sameItems items others
  | .obj members, .obj others => members.length == others.length && sameMembers members others
  | a, b => eqScalar true a b

/-- `same`, item by item. -/
def sameItems : List Json → List Json → Bool
  | [], [] => true
  | item :: rest, other :: others => same item other && sameItems rest others
  | _, _ => false

/-- Whether each member has one of the same name and the same value among the others. -/
def sameMembers : List (String × Json) → List (String × Json) → Bool
  | [], _ => true
  | (name, value) :: rest, others =>
    (match others.lookup name with
      | some other => same value other
      | none => false) && sameMembers rest others
end

/-- Whether two values are equal. In contrast to `same`, a bare NaN differs from itself. -/
def equal (a b : Json) : Bool :=
  match a, b with
  | .double x, .double y => Double.numEq x y
  | _, _ => same a b

end Json

end SchemaPress
