import SchemaPress.Shell.Arithmetic
import SchemaPress.Shell.Session

/-!
# Conditions

The conditions of `test`: comparisons of texts and numbers, questions about files, and their
combinations by `!`, `-a`, `-o` and parentheses. Whether a word is an operator or a text depends on the
words around it, so conditions are read from a row of words with a place in it.
-/

namespace SchemaPress.Shell

namespace Condition

/-- What kind of operator a word is. -/
inductive Kind where
  /-- In front of one word. -/
  | unary
  /-- Between two words. -/
  | binary
  /-- In front of a condition, or between conditions, or a parenthesis. -/
  | other
deriving DecidableEq, Repr

/-- The kind of a word that is an operator. -/
def kind? (word : String) : Option Kind :=
  if ["-r", "-w", "-x", "-e", "-f", "-d", "-c", "-b", "-p", "-u", "-g", "-k", "-s", "-t", "-z", "-n",
      "-h", "-O", "-G", "-L", "-S"].contains word then some .unary
  else if ["=", "!=", "<", ">", "-eq", "-ne", "-ge", "-gt", "-le", "-lt", "-nt", "-ot",
      "-ef"].contains word then some .binary
  else if ["!", "-a", "-o", "(", ")"].contains word then some .other
  else none

/-- What a word is in its place. -/
inductive Role where
  /-- There is no word. -/
  | finish
  /-- A text. -/
  | operand
  /-- An operator. -/
  | operator (word : String) (kind : Kind)
deriving DecidableEq, Repr

/-- A condition that is being worked out. -/
structure State where
  /-- The words. -/
  words : List String
  /-- The place of the word at hand. -/
  place : Nat := 0

/-- A step of working out a condition; a failure is told in words. -/
abbrev Check (α : Type) : Type := StateT State (Except String) α

/-- The word at a place. -/
def word? (place : Nat) : Check (Option String) := do
  return (← get).words[place]?

/-- Moves on by some words. -/
def advance (count : Nat) : Check Unit :=
  modify fun state => { state with place := state.place + count }

/-- Whether a word that could be a unary operator is a text: at the end, and in front of a binary
operator that has a word behind it. -/
def isText (place : Nat) : Check Bool := do
  match ← word? (place + 1), ← word? (place + 2) with
  | none, _ => return true
  | some _, none => return false
  | some next, some _ => return kind? next = some .binary

/-- What the word at a place is. -/
def role (place : Nat) : Check Role := do
  match ← word? place with
  | none => return .finish
  | some word =>
    match kind? word with
    | none => return .operand
    | some .unary => return if ← isText place then .operand else .operator word .unary
    | some kind =>
      if word == "(" && (← word? (place + 1)).isNone then return .operand
      else return .operator word kind

/-- Ends the work with a complaint about a word. -/
def fail {α : Type} (word reason : String) : Check α :=
  throw (if word.isEmpty then reason else word ++ ": " ++ reason)

/-- The number that a word writes. -/
def number (word : String) : Check Int := do
  let chars := word.toList.dropWhile Sum.isSpace
  let (negative, digits) := match chars with
    | '-' :: rest => (true, rest)
    | '+' :: rest => (false, rest)
    | rest => (false, rest)
  let shown := digits.takeWhile Char.isDigit
  let n : Int := shown.foldl (fun n c => 10 * n + (c.toNat - '0'.toNat)) 0
  let value := if negative then -n else n
  if shown.isEmpty || Sum.saturate value ≠ value ||
      !((digits.drop shown.length).all Sum.isSpace) then
    throw ("Illegal number: " ++ word)
  else return value

/-- What is at a path, through links or not. -/
def entryAt? (session : Session) (follow : Bool) (name : String) : Option Entry :=
  match session.tree.walk follow (session.path name) with
  | .ok (.entry _ entry) => some entry
  | _ => none

/-- The answer to a question about one word. -/
def askUnary (session : Session) (operator word : String) : Check Bool := do
  let entry := if word.isEmpty then none else entryAt? session true word
  match operator with
  | "-z" => return word.isEmpty
  | "-n" => return !word.isEmpty
  | "-t" => do
    discard (number word)
    return false
  | "-h" | "-L" =>
    return ((entryAt? session false word) matches some (.link _))
  | "-e" | "-r" | "-w" | "-O" | "-G" => return entry.isSome
  | "-f" => return (entry matches some (.file _))
  | "-d" | "-x" => return (entry matches some .directory)
  | "-s" =>
    match entry with
    | some (.file bytes) => return bytes.size ≠ 0
    | some _ => return true
    | none => return false
  | _ => return false

/-- The place that a path leads to. -/
def placeOf? (session : Session) (name : String) : Option Location :=
  match session.tree.find (session.path name) with
  | .ok (location, _) => some location
  | .error _ => none

/-- The answer to a question about two words. -/
def askBinary (session : Session) (left operator right : String) : Check Bool := do
  let compare (holds : Int → Int → Bool) : Check Bool := do
    let a ← number left
    return holds a (← number right)
  match operator with
  | "=" => return left == right
  | "!=" => return left != right
  | "<" => return decide (left < right)
  | ">" => return decide (right < left)
  | "-eq" => compare fun a b => decide (a = b)
  | "-ne" => compare fun a b => decide (a ≠ b)
  | "-ge" => compare fun a b => decide (b ≤ a)
  | "-gt" => compare fun a b => decide (b < a)
  | "-le" => compare fun a b => decide (a ≤ b)
  | "-lt" => compare fun a b => decide (a < b)
  | "-ef" =>
    match placeOf? session left, placeOf? session right with
    | some a, some b => return a == b
    | _, _ => return false
  | _ => return false

mutual

/-- Conditions of which one has to hold. The word at hand is the last one of the condition
afterwards. -/
def oneOf (session : Session) : Nat → Role → Check Bool
  | 0, _ => return false
  | fuel + 1, first => do
    let holds ← allOf session fuel first
    let place := (← get).place
    if (← role (place + 1)) = .operator "-o" .other then
      advance 2
      let rest ← oneOf session fuel (← role (place + 2))
      return holds || rest
    else return holds

/-- Conditions all of which have to hold. -/
def allOf (session : Session) : Nat → Role → Check Bool
  | 0, _ => return false
  | fuel + 1, first => do
    let holds ← possiblyNot session fuel first
    let place := (← get).place
    if (← role (place + 1)) = .operator "-a" .other then
      advance 2
      let rest ← allOf session fuel (← role (place + 2))
      return holds && rest
    else return holds

/-- A condition, or one that must not hold. -/
def possiblyNot (session : Session) : Nat → Role → Check Bool
  | 0, _ => return false
  | fuel + 1, first => do
    if first = .operator "!" .other then
      let next ← role ((← get).place + 1)
      if next ≠ .finish then advance 1
      return !(← possiblyNot session fuel next)
    else simple session fuel first

/-- A condition without conditions in it, or one in parentheses. -/
def simple (session : Session) : Nat → Role → Check Bool
  | 0, _ => return false
  | fuel + 1, first => do
    match first with
    | .finish => return false
    | .operator "(" _ =>
      advance 1
      let next ← role (← get).place
      if next = .operator ")" .other then return false
      else
        let holds ← oneOf session fuel next
        advance 1
        if (← role (← get).place) = .operator ")" .other then return holds
        else fail "" "closing paren expected"
    | .operator word .unary =>
      advance 1
      match ← word? (← get).place with
      | none => fail word "argument expected"
      | some operand => askUnary session word operand
    | _ =>
      let place := (← get).place
      let left := (← word? place).getD ""
      match ← role (place + 1) with
      | .operator word .binary =>
        advance 2
        match ← word? (place + 2) with
        | none => fail word "argument expected"
        | some right => askBinary session left word right
      | _ => return !left.isEmpty

end

/-- Whether the condition that words write holds. -/
def holds (session : Session) (words : List String) : Except String Bool := do
  let whole (first : Option Role) : Check Bool := do
    let first ← match first with
      | some first => pure first
      | none => role 0
    let result ← oneOf session (4 * words.length + 8) first
    let place := (← get).place
    match ← word? place, ← word? (place + 1) with
    | some word, some _ => fail word "unexpected operator"
    | _, _ => return result
  let bracketed := words.head? == some "(" && words.getLast? == some ")"
  let inner := (words.drop 1).dropLast
  match words with
  | [] => return false
  | [_, operator, _] =>
    if kind? operator = some .binary then (whole (some .operand)).run' { words }
    else (whole none).run' { words := if bracketed then inner else words }
  | [_, _, _, _] => (whole none).run' { words := if bracketed then inner else words }
  | words => (whole none).run' { words }

end Condition

end SchemaPress.Shell
