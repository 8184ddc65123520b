import SchemaPress.Text.Basic

/-!
# Paths

A path is kept as its root and its steps. Repeated slashes and steps to the same directory (`.`) say
nothing and are dropped; a step to the parent directory (`..`) is kept, because behind a symbolic
link it need not undo the step in front of it.

A `Location` is the place of an entry in the file tree: the names from the root down, with no such
steps in it.
-/

namespace SchemaPress

/-- The names that lead from the root of the file tree to an entry. -/
abbrev Location : Type := List String

/-- A path as a program spells it. -/
structure Path where
  /-- The slashes in front: none for a relative path. -/
  root : String
  /-- The names between the slashes. -/
  steps : List String
deriving DecidableEq, Repr

namespace Path

/-- The names between the slashes of a text. -/
def names (text : String) : List String :=
  ((Text.pieces '/' text.toList).map String.ofList).filter fun name => name != "" && name != "."

/-- The path that a text spells. Two slashes in front are a root of their own; three or more count as
one. -/
def ofText (text : String) : Path :=
  let root := match text.toList with
    | '/' :: '/' :: '/' :: _ => "/"
    | '/' :: '/' :: _ => "//"
    | '/' :: _ => "/"
    | _ => ""
  ⟨root, names text⟩

/-- The path of a place in the file tree. -/
def ofLocation (location : Location) : Path :=
  ⟨"/", location⟩

/-- Whether the path starts at the root of the file tree. -/
def isAbsolute (path : Path) : Bool :=
  path.root != ""

/-- The path that `other` is when it is spelled relative to `path`. -/
def join (path other : Path) : Path :=
  if other.isAbsolute then other else ⟨path.root, path.steps ++ other.steps⟩

/-- The path of an entry of this name. -/
def child (path : Path) (name : String) : Path :=
  path.join (ofText name)

/-- The path without its last step. -/
def parent (path : Path) : Path :=
  ⟨path.root, path.steps.dropLast⟩

/-- The last step; empty when there is none. -/
def name (path : Path) : String :=
  path.steps.getLast?.getD ""

/-- The text of the path. -/
def text (path : Path) : String :=
  if path.root == "" && path.steps.isEmpty then "."
  else path.root ++ "/".intercalate path.steps

/-- The path with each step to a parent directory undoing the step in front of it. -/
def normalized (path : Path) : Path :=
  let steps := path.steps.foldl (fun kept step => if step == ".." then kept.dropLast else kept ++ [step]) []
  ⟨path.root, steps⟩

/-- Whether the path has a NUL character in it, which no file system takes. -/
def hasNul (path : Path) : Bool :=
  path.steps.any fun step => step.toList.contains '\x00'

end Path

end SchemaPress
