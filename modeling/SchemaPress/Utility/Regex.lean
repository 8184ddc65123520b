import SchemaPress.Shell.Pattern

/-!
# Regular expressions

Expressions that stand for the lines that `grep` looks for and `sed` changes, in the basic notation,
where groups and counts are written with backslashes, and in the extended one. Of the places where an
expression fits, the first one counts, and there the longest text.
-/

namespace SchemaPress.Utility

/-- A regular expression. -/
inductive Regex where
  /-- Nothing. -/
  | empty
  /-- A byte. -/
  | exactly (c : Char)
  /-- Any byte. -/
  | one
  /-- A byte that is in one of the groups, or in none of them if `negated`. -/
  | among (negated : Bool) (groups : List Shell.Group)
  /-- The start of the line. -/
  | start
  /-- The end of the line. -/
  | stop
  /-- An expression whose text is kept by its number. -/
  | kept (number : Nat) (inner : Regex)
  /-- The text that an expression with this number fitted. -/
  | again (number : Nat)
  /-- One expression behind another one. -/
  | both (first second : Regex)
  /-- One of two expressions. -/
  | either (first second : Regex)
  /-- An expression several times. -/
  | times (least : Nat) (most : Option Nat) (inner : Regex)

/-- A place in a line: the bytes in front of it, the last one first, the bytes behind it, and the texts
that are kept. -/
structure Fit where
  /-- The bytes in front, the last one first. -/
  before : List Char
  /-- The bytes behind. -/
  after : List Char
  /-- The texts that are kept. -/
  texts : List (Nat × List Char) := []

namespace Regex

/-- Two bytes are equal, in capital or small letters if that does not matter. -/
def sameByte (ignoreCase : Bool) (a b : Char) : Bool :=
  a == b || (ignoreCase && a.toLower == b.toLower)

/-- Moves over a byte that passes a test. -/
def past (test : Char → Bool) (fit : Fit) : List Fit :=
  match fit.after with
  | [] => []
  | c :: after => if test c then [{ fit with before := c :: fit.before, after }] else []

/-- Moves over a text. -/
def overText (ignoreCase : Bool) (text : List Char) (fit : Fit) : List Fit :=
  text.foldl (fun fits c => fits.flatMap (past (sameByte ignoreCase c))) [fit]

/-- The places behind an expression that fits here several times. -/
def repeated (step : Fit → List Fit) (fuel least : Nat) (most : Option Nat) (fit : Fit) : List Fit :=
  match fuel with
  | 0 => [fit]
  | fuel + 1 =>
    let stay := if least = 0 then [fit] else []
    if most = some 0 then stay
    else
      -- A round that fits nothing would go on for ever, so it counts only while rounds are owed.
      let rounds := (step fit).filter fun next =>
        decide (0 < least) || decide (next.after.length < fit.after.length)
      rounds.flatMap (repeated step fuel (least - 1) (most.map (· - 1))) ++ stay

/-- The places behind an expression that fits here. -/
def fits (ignoreCase : Bool) : Regex → Fit → List Fit
  | .empty, fit => [fit]
  | .exactly c, fit => past (sameByte ignoreCase c) fit
  | .one, fit => past (fun _ => true) fit
  | .among negated groups, fit =>
    past (fun c =>
      (groups.any fun group =>
        group.holds c || (ignoreCase && (group.holds c.toLower || group.holds c.toUpper))) != negated)
      fit
  | .start, fit => if fit.before.isEmpty then [fit] else []
  | .stop, fit => if fit.after.isEmpty then [fit] else []
  | .kept number inner, fit =>
    (fits ignoreCase inner fit).map fun next =>
      let size := next.before.length - fit.before.length
      { next with texts := (number, (next.before.take size).reverse) :: next.texts }
  | .again number, fit =>
    match fit.texts.lookup number with
    | some text => overText ignoreCase text fit
    | none => []
  | .both first second, fit => (fits ignoreCase first fit).flatMap (fits ignoreCase second)
  | .either first second, fit => fits ignoreCase first fit ++ fits ignoreCase second fit
  | .times least most inner, fit =>
    repeated (fits ignoreCase inner) (fit.after.length + least + 1) least most fit

/-- The longest fit at a place. -/
def longest (ignoreCase : Bool) (regex : Regex) (fit : Fit) : Option Fit :=
  (regex.fits ignoreCase fit).foldl
    (fun best next =>
      match best with
      | none => some next
      | some found => if next.after.length < found.after.length then some next else some found)
    none

/-- The first fit in the rest of a line: what is in front of it, and the place behind it. -/
def search (ignoreCase : Bool) (regex : Regex) (before : List Char) :
    List Char → Option (List Char × Fit)
  | [] => (regex.longest ignoreCase ⟨before, [], []⟩).map (before, ·)
  | c :: rest =>
    match regex.longest ignoreCase ⟨before, c :: rest, []⟩ with
    | some fit => some (before, fit)
    | none => search ignoreCase regex (c :: before) rest

/-! ### Reading expressions -/

/-- A reader of expressions: what is not read yet, and the number of the next group. -/
abbrev Reader (α : Type) : Type := StateT (List Char × Nat) (Except String) α

/-- The next byte. -/
def peek : Reader (Option Char) := do
  return (← get).1.head?

/-- Takes bytes. -/
def skip (count : Nat) : Reader Unit :=
  modify fun (chars, number) => (chars.drop count, number)

/-- Whether the given bytes come next. -/
def comes (text : String) : Reader Bool := do
  return text.toList.isPrefixOf (← get).1

/-- A count at the front. -/
def countOf : Reader (Option Nat) := do
  let digits := (← get).1.takeWhile Char.isDigit
  skip digits.length
  return if digits.isEmpty then none
    else some (digits.foldl (fun n c => 10 * n + (c.toNat - '0'.toNat)) 0)

/-- The bounds of a count, whose opening sign is taken already. -/
def boundsOf (closing : String) : Reader (Nat × Option Nat) := do
  let least ← countOf
  let bounds ← if ← comes "," then do
      skip 1
      pure (least.getD 0, ← countOf)
    else pure (least.getD 0, least)
  if ← comes closing then
    skip closing.length
    return bounds
  else throw "Invalid content of \\\x7b\\\x7d"

/-- The signs of a way to write expressions. -/
structure Style where
  /-- Whether it is the extended one. -/
  extended : Bool

/-- How a sign is written: bare in the extended notation, behind a backslash in the basic one. -/
def Style.sign (style : Style) (text : String) : String :=
  if style.extended then text else "\\" ++ text

mutual

/-- Expressions of which one has to fit. -/
def alternatives (style : Style) : Nat → Reader Regex
  | 0 => return .empty
  | fuel + 1 => do
    let first ← sequence style fuel true
    if ← comes (style.sign "|") then
      skip (style.sign "|").length
      return .either first (← alternatives style fuel)
    else return first

/-- Expressions one behind the other. -/
def sequence (style : Style) : Nat → Bool → Reader Regex
  | 0, _ => return .empty
  | fuel + 1, first => do
    if (← peek).isNone || (← comes (style.sign "|")) || (← comes (style.sign ")")) then return .empty
    else
      let atom ← atom style fuel first
      let counted ← counted style fuel atom
      return .both counted (← sequence style fuel ((atom matches .start) && first))

/-- An expression with the counts behind it. -/
def counted (style : Style) : Nat → Regex → Reader Regex
  | 0, regex => return regex
  | fuel + 1, regex => do
    if (regex matches .start) && !style.extended then return regex
    else if ← comes "*" then
      skip 1
      counted style fuel (.times 0 none regex)
    else if ← comes (style.sign "+") then
      skip (style.sign "+").length
      counted style fuel (.times 1 none regex)
    else if ← comes (style.sign "?") then
      skip (style.sign "?").length
      counted style fuel (.times 0 (some 1) regex)
    else if ← comes (style.sign "\x7b") then
      skip (style.sign "\x7b").length
      let (least, most) ← boundsOf (style.sign "\x7d")
      counted style fuel (.times least most regex)
    else return regex

/-- An expression without counts. `first` says that it opens a sequence. -/
def atom (style : Style) : Nat → Bool → Reader Regex
  | 0, _ => return .empty
  | fuel + 1, first => do
    if ← comes (style.sign "(") then
      skip (style.sign "(").length
      let (chars, number) ← get
      set (chars, number + 1)
      let inner ← alternatives style fuel
      if ← comes (style.sign ")") then
        skip (style.sign ")").length
        return .kept number inner
      else throw "Unmatched ( or \\("
    else
      match (← get).1 with
      | [] => return .empty
      | '^' :: _ =>
        skip 1
        return if style.extended || first then .start else .exactly '^'
      | '$' :: rest =>
        skip 1
        let ends := rest.isEmpty || (style.sign ")").toList.isPrefixOf rest ||
          (style.sign "|").toList.isPrefixOf rest
        return if style.extended || ends then .stop else .exactly '$'
      | '.' :: _ =>
        skip 1
        return .one
      | '[' :: rest =>
        let negated := rest.head? == some '^'
        let inside := if negated then rest.drop 1 else rest
        match Shell.groups? (inside.length + 1) true (inside.map (·, false)) with
        | some (groups, size) =>
          skip (if negated then size + 2 else size + 1)
          return .among negated groups
        | none => throw "Unmatched [, [^, [:, [., or [="
      | '\\' :: 'n' :: _ =>
        skip 2
        return .exactly '\n'
      | '\\' :: 't' :: _ =>
        skip 2
        return .exactly '\t'
      | '\\' :: 'w' :: _ =>
        skip 2
        return .among false [.named "alnum", .span '_' '_']
      | '\\' :: 's' :: _ =>
        skip 2
        return .among false [.named "space"]
      | '\\' :: c :: _ =>
        skip 2
        if c.isDigit && c != '0' then return .again (c.toNat - '0'.toNat) else return .exactly c
      | ['\\'] => throw "Trailing backslash"
      | c :: _ =>
        skip 1
        return .exactly c

end

/-- Reads an expression. -/
def parse (extended : Bool) (text : String) : Except String Regex := do
  let chars := text.toList
  let (regex, (rest, _)) ← (alternatives ⟨extended⟩ (6 * chars.length + 8)).run (chars, 1)
  if rest.isEmpty then return regex else throw "Unmatched ) or \\)"

/-- The expression that stands for a text itself. -/
def ofText (text : String) : Regex :=
  text.toList.foldr (fun c regex => .both (.exactly c) regex) .empty

end Regex

end SchemaPress.Utility
