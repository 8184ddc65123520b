/-!
# Parts of expressions

What a complaint has to know of an expression: what it is called, where it starts, and which of its
parts cannot stand where a value is assigned, taken from a loop or deleted.
-/

namespace SchemaPress.SourceCheck

/-- What a part of the source is. -/
inductive What where
  | name (text : String)
  | attribute
  | subscript
  | starred
  | list
  | tuple
  /-- Operands with their operators between them. -/
  | comparison
  /-- Anything that can only be read, by what it is called. -/
  | value (called : String)
deriving DecidableEq, Repr

/-- What it is called in a complaint. -/
def What.called : What → String
  | .name _ => "name"
  | .attribute => "attribute"
  | .subscript => "subscript"
  | .starred => "starred"
  | .list => "list"
  | .tuple => "tuple"
  | .comparison => "comparison"
  | .value called => called

/-- A part of the source, the line it starts on, and the parts of it that matter. -/
inductive Part where
  | mk (what : What) (line : Nat) (parts : List Part)

/-- What it is. -/
def Part.what : Part → What
  | .mk what _ _ => what

/-- The line it starts on. -/
def Part.line : Part → Nat
  | .mk _ line _ => line

/-- The parts of it that matter. -/
def Part.parts : Part → List Part
  | .mk _ _ parts => parts

/-- What is done with a place for a value. -/
inductive Use where
  | assign
  | loop
  | delete
deriving DecidableEq, Repr

mutual

/-- The first part of an expression that is no place for a value. In the head of a loop, the first
operator `in` ends the place, and any other comparison is left to the grammar. -/
def Part.refused? (use : Use) : Part → Option Part
  | .mk (.name _) _ _ => none
  | .mk .attribute _ _ => none
  | .mk .subscript _ _ => none
  | .mk .list _ parts => Part.refusedIn? use parts
  | .mk .tuple _ parts => Part.refusedIn? use parts
  | .mk .starred line parts =>
    if use = .delete then some (.mk .starred line parts) else Part.refusedIn? use parts
  | .mk .comparison line (left :: operator :: rest) =>
    if use = .loop then
      if operator.what = .value "in" then Part.refused? use left else none
    else some (.mk .comparison line (left :: operator :: rest))
  | part => some part

/-- The first of some parts that is no place for a value, or a part of one of them. -/
def Part.refusedIn? (use : Use) : List Part → Option Part
  | [] => none
  | part :: rest => (Part.refused? use part).or (Part.refusedIn? use rest)

end

end SchemaPress.SourceCheck
