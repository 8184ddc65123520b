/-!
# Patterns

A pattern of the shell stands for the texts that fit it as a whole: an asterisk fits any text, a
question mark any byte, brackets one of the bytes in them, and any other byte itself. Quoted bytes
always stand for themselves.
-/

namespace SchemaPress.Shell

/-- A set of bytes inside brackets. -/
inductive Group where
  /-- The bytes between two bytes, both included. -/
  | span (low high : Char)
  /-- The bytes of a class that has a name. -/
  | named (name : String)
deriving DecidableEq, Repr

/-- A part of a pattern. -/
inductive Glob where
  /-- A byte that stands for itself. -/
  | exactly (c : Char)
  /-- Any byte. -/
  | one
  /-- Any text. -/
  | many
  /-- A byte that is in one of the groups, or in none of them if `negated`. -/
  | among (negated : Bool) (groups : List Group)
deriving DecidableEq, Repr

/-- A pattern. -/
abbrev Pattern := List Glob

/-- A character of a pattern as it is written: itself, and whether it is quoted. -/
abbrev Mark := Char × Bool

/-- The classes of bytes that have names. -/
def classes : List (String × (Char → Bool)) :=
  [("alpha", Char.isAlpha), ("digit", Char.isDigit), ("alnum", Char.isAlphanum),
   ("upper", Char.isUpper), ("lower", Char.isLower),
   ("space", fun c => c == ' ' || (9 ≤ c.toNat && c.toNat ≤ 13)),
   ("blank", fun c => c == ' ' || c == '\t'),
   ("punct", fun c => 33 ≤ c.toNat && c.toNat ≤ 126 && !c.isAlphanum),
   ("print", fun c => 32 ≤ c.toNat && c.toNat ≤ 126),
   ("graph", fun c => 33 ≤ c.toNat && c.toNat ≤ 126),
   ("cntrl", fun c => c.toNat < 32 || c.toNat == 127),
   ("xdigit", fun c => c.isDigit || ('a' ≤ c && c ≤ 'f') || ('A' ≤ c && c ≤ 'F'))]

/-- Whether a byte is in a group. -/
def Group.holds (c : Char) : Group → Bool
  | .span low high => decide (low ≤ c) && decide (c ≤ high)
  | .named name => ((classes.lookup name).map (· c)).getD false

/-- Whether a byte fits a part of a pattern. -/
def Glob.fits (c : Char) : Glob → Bool
  | .exactly d => c == d
  | .one => true
  | .many => false
  | .among negated groups => groups.any (Group.holds c) != negated

/-- Whether a text fits a pattern. -/
def Pattern.fits : Pattern → List Char → Bool
  | [], text => text.isEmpty
  | .many :: rest, [] => Pattern.fits rest []
  | .many :: rest, c :: text => Pattern.fits rest (c :: text) || Pattern.fits (.many :: rest) text
  | _ :: _, [] => false
  | glob :: rest, c :: text => glob.fits c && Pattern.fits rest text
termination_by pattern text => pattern.length + text.length

/-! ### Reading patterns -/

/-- The name of a class up to its closing sign, and what is behind it. -/
def className? (marks : List Mark) : Option (String × Nat) :=
  let name := (marks.takeWhile fun mark => mark.1.isAlpha).map Prod.fst
  match marks.drop name.length with
  | (':', false) :: (']', _) :: _ =>
    if (classes.lookup (String.ofList name)).isSome then some (String.ofList name, name.length + 2)
    else none
  | _ => none

/-- The groups up to the closing bracket, and the number of characters they are written with; nothing
if the bracket is not closed. A closing bracket right at the start is a member. -/
def groups? (fuel : Nat) (start : Bool) (marks : List Mark) : Option (List Group × Nat) :=
  match fuel, marks with
  | 0, _ => none
  | _, [] => none
  | fuel + 1, mark :: rest =>
    if mark == (']', false) && !start then some ([], 1)
    else
      let next (group : Group) (size : Nat) : Option (List Group × Nat) := do
        let (groups, count) ← groups? fuel false (marks.drop size)
        return (group :: groups, count + size)
      let plain : Option (List Group × Nat) :=
        match rest with
        | ('-', false) :: (high, quoted) :: _ =>
          if (high, quoted) == (']', false) then next (.span mark.1 mark.1) 1
          else next (.span mark.1 high) 3
        | _ => next (.span mark.1 mark.1) 1
      match mark, rest with
      | ('[', false), (':', false) :: inner =>
        match className? inner with
        | some (name, size) => next (.named name) (size + 2)
        | none => plain
      | _, _ => plain

/-- The part of a pattern that a bracket opens, and the number of characters behind the bracket that
belong to it. -/
def bracket? (marks : List Mark) : Option (Glob × Nat) :=
  match marks with
  | ('!', false) :: rest => do
    let (groups, size) ← groups? (rest.length + 1) true rest
    return (.among true groups, size + 1)
  | marks => do
    let (groups, size) ← groups? (marks.length + 1) true marks
    return (.among false groups, size)

/-- The pattern that marks write; the first `skipped` of them belong to a part in front. -/
def Pattern.ofMarks (skipped : Nat) : List Mark → Pattern
  | [] => []
  | mark :: rest =>
    match skipped with
    | n + 1 => Pattern.ofMarks n rest
    | 0 =>
      match mark with
      | ('*', false) => .many :: Pattern.ofMarks 0 rest
      | ('?', false) => .one :: Pattern.ofMarks 0 rest
      | ('[', false) =>
        match bracket? rest with
        | some (glob, size) => glob :: Pattern.ofMarks size rest
        | none => .exactly '[' :: Pattern.ofMarks 0 rest
      | (c, _) => .exactly c :: Pattern.ofMarks 0 rest

/-- Whether a pattern can fit more than one text. -/
def Pattern.isOpen (pattern : Pattern) : Bool :=
  pattern.any fun glob => !(glob matches .exactly _)

/-! ### Cutting texts -/

/-- The number of bytes that a pattern takes away from the front of a text: the least number, or the
greatest one if `longest`. -/
def frontFit (pattern : Pattern) (longest : Bool) (text : List Char) : Option Nat :=
  let sizes := List.range (text.length + 1)
  (if longest then sizes.reverse else sizes).find? fun n => pattern.fits (text.take n)

/-- A text without the piece that a pattern takes away from its front or its end. -/
def trimmed (pattern : Pattern) (atEnd longest : Bool) (text : List Char) : List Char :=
  if atEnd then
    let sizes := List.range (text.length + 1)
    match (if longest then sizes else sizes.reverse).find? fun n => pattern.fits (text.drop n) with
    | some n => text.take n
    | none => text
  else
    match frontFit pattern longest text with
    | some n => text.drop n
    | none => text

end SchemaPress.Shell
