import SchemaPress.Text.Basic

/-!
# Sums

The value of a sum in a script, such as `1 + 2 * x`. Numbers have sixty-four bits and a sign and wrap
around. A variable has the number that its value is written as; assignments give it another one. A sum
is worked out while it is read, so of two mistakes the first one counts, and a part that does not
matter (`1 || x`) is read only.
-/

namespace SchemaPress.Shell

namespace Sum

/-- A token of a sum. -/
inductive Token where
  /-- A number. -/
  | number (value : Int)
  /-- The name of a variable. -/
  | variable (name : String)
  /-- A sign. -/
  | sign (text : String)
  /-- The end. -/
  | finish
  /-- A character that no token starts with. -/
  | unknown
deriving DecidableEq, Repr

/-- What a sum is worked out from. -/
structure State where
  /-- The characters that are not read yet. -/
  chars : List Char
  /-- The token that was read last but does not belong to the part in front of it. -/
  last : Token := .finish
  /-- The values of variables, the latest first. -/
  values : List (String × String)
  /-- The variables that were assigned, the latest first. -/
  assigned : List (String × String) := []

/-- Why a sum has no value. -/
inductive Trouble where
  /-- It is written wrongly, or divides by zero. -/
  | wrong (reason : String)
  /-- A variable has no number. -/
  | noNumber (text : String)
deriving DecidableEq, Repr

/-- A step of working out a sum. -/
abbrev Calc (α : Type) : Type := StateT State (Except Trouble) α

/-- A number made to fit into sixty-four bits. -/
def wrap (n : Int) : Int :=
  Int.bmod n 18446744073709551616

/-- The greatest number. -/
def greatest : Int := 9223372036854775807

/-- A number that is written too large is the greatest one. -/
def saturate (n : Int) : Int :=
  if greatest < n then greatest else if n < -greatest - 1 then -greatest - 1 else n

/-- The number in front of a text, and the characters behind it: hexadecimal behind `0x`, octal behind
`0`, decimal otherwise. -/
def unsigned (chars : List Char) : Nat × List Char :=
  let valueOf (base : Nat) (digits : List Char) : Nat :=
    digits.foldl (fun n c => base * n + (Text.hexValue? c).getD 0) 0
  let isOctal (c : Char) : Bool := decide ('0' ≤ c) && decide (c ≤ '7')
  let hexadecimal (rest : List Char) : Nat × List Char :=
    let digits := rest.takeWhile Text.isHexDigit
    if digits.isEmpty then (0, chars.drop 1) else (valueOf 16 digits, rest.drop digits.length)
  match chars with
  | '0' :: 'x' :: rest => hexadecimal rest
  | '0' :: 'X' :: rest => hexadecimal rest
  | '0' :: rest =>
    let digits := rest.takeWhile isOctal
    (valueOf 8 digits, rest.drop digits.length)
  | chars =>
    let digits := chars.takeWhile Char.isDigit
    (valueOf 10 digits, chars.drop digits.length)

/-- A blank between words. -/
def isSpace (c : Char) : Bool :=
  c == ' ' || (9 ≤ c.toNat && c.toNat ≤ 13)

/-- The number that a whole text writes, with blanks around it. A text of blanks only is zero. -/
def numberOf? (text : String) : Option Int :=
  let chars := text.toList.dropWhile isSpace
  let (negative, digits) := match chars with
    | '-' :: rest => (true, rest)
    | '+' :: rest => (false, rest)
    | rest => (false, rest)
  match digits with
  | [] => if chars.isEmpty then some 0 else none
  | c :: _ =>
    if !c.isDigit then none
    else
      let (n, rest) := unsigned digits
      let value : Int := if negative then -(n : Int) else n
      if (rest.dropWhile isSpace).isEmpty && saturate value = value then some value else none

/-- The signs of a sum, longer ones first. -/
def signs : List String :=
  ["<<=", ">>=", "<<", ">>", "<=", ">=", "==", "!=", "&&", "||", "+=", "-=", "*=", "/=", "%=", "&=",
   "|=", "^=", "=", "<", ">", "+", "-", "*", "/", "%", "&", "|", "^", "!", "~", "?", ":", "(", ")"]

/-- The first token of a text, and the characters behind it. -/
def tokenOf (chars : List Char) : Token × List Char :=
  let chars := chars.dropWhile fun c => c == ' ' || c == '\t' || c == '\n'
  match chars with
  | [] => (.finish, [])
  | c :: rest =>
    if c.isDigit then
      let (n, rest) := unsigned (c :: rest)
      (.number (saturate n), rest)
    else if c.isAlpha || c == '_' then
      let name := chars.takeWhile fun c => c.isAlphanum || c == '_'
      (.variable (String.ofList name), chars.drop name.length)
    else
      match signs.find? fun sign => sign.toList.isPrefixOf chars with
      | some sign => (.sign sign, chars.drop sign.length)
      | none => (.unknown, rest)

/-- Reads a token. -/
def next : Calc Token := do
  let state ← get
  let (token, chars) := tokenOf state.chars
  set { state with chars }
  return token

/-- Keeps a token for the part that follows. -/
def keep (token : Token) : Calc Unit :=
  modify fun state => { state with last := token }

/-- Ends the sum without a value. -/
def fail {α : Type} (reason : String) : Calc α :=
  throw (.wrong reason)

/-- The number of a variable. -/
def look (name : String) : Calc Int := do
  let text := ((← get).values.lookup name).getD ""
  match numberOf? text with
  | some n => return n
  | none => throw (.noNumber text)

/-- Gives a variable a number. -/
def assign (name : String) (n : Int) : Calc Int := do
  modify fun state => { state with
    values := (name, toString n) :: state.values
    assigned := (name, toString n) :: state.assigned }
  return n

/-- How tightly a sign between two numbers binds, the tightest with zero. -/
def rank? (sign : String) : Option Nat :=
  match sign with
  | "*" | "/" | "%" => some 0
  | "+" | "-" => some 1
  | "<<" | ">>" => some 2
  | "<" | "<=" | ">" | ">=" => some 3
  | "==" | "!=" => some 4
  | "&" => some 5
  | "^" => some 6
  | "|" => some 7
  | _ => none

/-- A number from its sixty-four bits. -/
def ofBits (bits : BitVec 64) : Int :=
  bits.toInt

/-- The sixty-four bits of a number. -/
def toBits (n : Int) : BitVec 64 :=
  BitVec.ofInt 64 n

/-- A number that says whether something holds. -/
def truth (holds : Bool) : Int :=
  if holds then 1 else 0

/-- What a sign makes of two numbers. -/
def combine (sign : String) (a b : Int) : Calc Int :=
  let shift : Nat := (b % 64).toNat
  match sign with
  | "*" => return wrap (a * b)
  | "/" => if b = 0 then fail "division by zero" else return wrap (Int.tdiv a b)
  | "%" => if b = 0 then fail "division by zero" else return Int.tmod a b
  | "+" => return wrap (a + b)
  | "-" => return wrap (a - b)
  | "<<" => return ofBits (toBits a <<< shift)
  | ">>" => return ofBits ((toBits a).sshiftRight shift)
  | "<" => return truth (decide (a < b))
  | "<=" => return truth (decide (a ≤ b))
  | ">" => return truth (decide (b < a))
  | ">=" => return truth (decide (b ≤ a))
  | "==" => return truth (decide (a = b))
  | "!=" => return truth (decide (a ≠ b))
  | "&" => return ofBits (toBits a &&& toBits b)
  | "^" => return ofBits (toBits a ^^^ toBits b)
  | _ => return ofBits (toBits a ||| toBits b)

/-- The sign that a sign of assignment combines the old value with, if it is one; empty for plain
assignment. -/
def assignmentSign? (token : Token) : Option String :=
  match token with
  | .sign "=" => some ""
  | .sign text =>
    if ["<<=", ">>=", "+=", "-=", "*=", "/=", "%=", "&=", "|=", "^="].contains text then
      some (String.ofList text.toList.dropLast)
    else none
  | _ => none

mutual

/-- A whole sum, from its first token on. With `idle` it is read only. -/
def assignment : Nat → Bool → Token → Calc Int
  | 0, _, _ => fail "expecting primary"
  | fuel + 1, idle, first => do
    let op ← next
    match first, assignmentSign? op with
    | .variable name, some sign =>
      let value ← assignment fuel idle (← next)
      if idle then return value
      else if sign.isEmpty then assign name value
      else assign name (← combine sign (← look name) value)
    | first, _ => choice fuel idle first op

/-- One of two sums, chosen by a third. -/
def choice : Nat → Bool → Token → Token → Calc Int
  | 0, _, _, _ => fail "expecting primary"
  | fuel + 1, idle, first, op => do
    let test ← disjunction fuel idle first op
    if (← get).last = .sign "?" then
      let whenTrue ← assignment fuel (idle || test = 0) (← next)
      if (← get).last = .sign ":" then
        let first ← next
        let whenFalse ← choice fuel (idle || test ≠ 0) first (← next)
        return if test = 0 then whenFalse else whenTrue
      else fail "expecting ':'"
    else return test

/-- Whether one of several sums is not zero. -/
def disjunction : Nat → Bool → Token → Token → Calc Int
  | 0, _, _, _ => fail "expecting primary"
  | fuel + 1, idle, first, op => do
    let a ← conjunction fuel idle first op
    if (← get).last = .sign "||" then
      let first ← next
      let b ← disjunction fuel (idle || a ≠ 0) first (← next)
      return truth (a ≠ 0 || b ≠ 0)
    else return a

/-- Whether none of several sums is zero. -/
def conjunction : Nat → Bool → Token → Token → Calc Int
  | 0, _, _, _ => fail "expecting primary"
  | fuel + 1, idle, first, op => do
    let a ← operation fuel idle first op
    if (← get).last = .sign "&&" then
      let first ← next
      let b ← conjunction fuel (idle || a = 0) first (← next)
      return truth (a ≠ 0 && b ≠ 0)
    else return a

/-- Numbers with signs between them. -/
def operation : Nat → Bool → Token → Token → Calc Int
  | 0, _, _, _ => fail "expecting primary"
  | fuel + 1, idle, first, op => do
    let a ← operand fuel idle first op
    match (← get).last with
    | .sign sign => if (rank? sign).isSome then continued fuel idle a sign 8 else return a
    | _ => return a

/-- A number with signs and numbers behind it, as long as the signs bind more tightly than the given
rank. -/
def continued : Nat → Bool → Int → String → Nat → Calc Int
  | 0, _, _, _, _ => fail "expecting primary"
  | fuel + 1, idle, a, sign, bound => do
    let first ← next
    let b ← operand fuel idle first (← next)
    let rank := (rank? sign).getD 0
    let b ← match (← get).last with
      | .sign tighter =>
        match rank? tighter with
        | some r => if r < rank then continued fuel idle b tighter rank else pure b
        | none => pure b
      | _ => pure b
    let value ← if idle then pure b else combine sign a b
    match (← get).last with
    | .sign later =>
      match rank? later with
      | some r => if r < bound then continued fuel idle value later bound else return value
      | none => return value
    | _ => return value

/-- A number, a variable, a sum in parentheses, or one of them behind a sign. -/
def operand : Nat → Bool → Token → Token → Calc Int
  | 0, _, _, _ => fail "expecting primary"
  | fuel + 1, idle, first, op => do
    match first with
    | .sign "(" =>
      let value ← assignment fuel idle op
      if (← get).last = .sign ")" then
        keep (← next)
        return value
      else fail "expecting ')'"
    | .number n =>
      keep op
      return n
    | .variable name =>
      keep op
      if idle then return 0 else look name
    | .sign "+" => operand fuel idle op (← next)
    | .sign "-" => return wrap (-(← operand fuel idle op (← next)))
    | .sign "!" => return truth ((← operand fuel idle op (← next)) = 0)
    | .sign "~" => return -(← operand fuel idle op (← next)) - 1
    | _ => fail "expecting primary"

end

/-- The value of a sum, and the variables that it assigns. -/
def value (text : String) (values : List (String × String)) :
    Except Trouble (Int × List (String × String)) := do
  let work : Calc Int := do
    let value ← assignment (8 * text.length + 16) false (← next)
    if (← get).last = .finish then return value else fail "expecting EOF"
  let (value, state) ← work.run { chars := text.toList, values }
  return (value, state.assigned)

end Sum

end SchemaPress.Shell
