import SchemaPress.Json.Raw
import SchemaPress.Text.Basic

/-!
# Reading JSON

The parser reads a value from a list of characters and returns what follows it, with a proof that
something was consumed; that proof is what the recursion through arrays and objects ends by. A fault
carries the characters from the faulty place on, so its line and column are worked out once, at the
end, from the lengths of the two texts.

The language is JSON with the three words `NaN`, `Infinity` and `-Infinity` as doubles. Blanks are
space, tabulator, line feed and carriage return only. A repeated member name keeps its first place
and takes its last value. An integer of more than 4300 digits is no fault of the text, and stops the
reading all the same.

`parseRaw` reads what the text says, `parse` a value without halves of surrogate pairs.
-/

namespace SchemaPress.Json

/-- What is wrong with a text that is not JSON. -/
inductive SyntaxProblem where
  | value
  | name
  | colon
  | comma
  | unterminated
  | control
  | escape
  | unicodeEscape
  | extra
  | byteOrderMark
deriving DecidableEq, Repr

/-- The problem in words. -/
def SyntaxProblem.message : SyntaxProblem → String
  | .value => "Expecting value"
  | .name => "Expecting property name enclosed in double quotes"
  | .colon => "Expecting ':' delimiter"
  | .comma => "Expecting ',' delimiter"
  | .unterminated => "Unterminated string starting at"
  | .control => "Invalid control character at"
  | .escape => "Invalid \\escape"
  | .unicodeEscape => "Invalid \\uXXXX escape"
  | .extra => "Extra data"
  | .byteOrderMark => "Unexpected UTF-8 BOM (decode using utf-8-sig)"

/-- What stops the reading. -/
inductive Fault where
  /-- A problem, with the text from its place on. -/
  | wrong (problem : SyntaxProblem) (rest : List Char)
  /-- An integer has too many digits. -/
  | tooLong

/-- A problem and its place: line and column count from one, the offset from zero. -/
structure SyntaxError where
  /-- What is wrong. -/
  problem : SyntaxProblem
  /-- The line of the place. -/
  line : Nat
  /-- The column of the place. -/
  column : Nat
  /-- The number of characters in front of the place. -/
  offset : Nat
deriving DecidableEq, Repr

/-- The error in words. -/
def SyntaxError.message (e : SyntaxError) : String :=
  e.problem.message ++ ": line " ++ toString e.line ++ " column " ++ toString e.column ++
    " (char " ++ toString e.offset ++ ")"

/-- The error of a problem in the whole text, where `rest` is what follows its place. -/
def SyntaxProblem.locate (whole : List Char) (problem : SyntaxProblem) (rest : List Char) :
    SyntaxError :=
  let before := whole.take (whole.length - rest.length)
  { problem
    line := before.count '\n' + 1
    column := (before.reverse.takeWhile (· != '\n')).length + 1
    offset := before.length }

/-- A blank between the tokens of a JSON text. -/
def isSpace (c : Char) : Bool :=
  c == ' ' || c == '\t' || c == '\n' || c == '\r'

/-- The text without the blanks in front. -/
def skipSpace (s : List Char) : List Char :=
  s.dropWhile isSpace

theorem length_skipSpace_le (s : List Char) : (skipSpace s).length ≤ s.length :=
  (List.dropWhile_sublist isSpace).length_le

/-- The text behind a word that it starts with. -/
def afterWord : List Char → List Char → Option (List Char)
  | [], s => some s
  | _ :: _, [] => none
  | c :: word, d :: s => if c = d then afterWord word s else none

/-! ### Texts -/

/-- The number written by four hexadecimal digits. -/
def unit? (a b c d : Char) : Option Nat :=
  Text.hexNumber? [a, b, c, d]

/-- The character that a one-letter escape stands for. -/
def shortEscape? (c : Char) : Option Char :=
  match c with
  | '"' => some '"'
  | '\\' => some '\\'
  | '/' => some '/'
  | 'b' => some '\x08'
  | 'f' => some '\x0c'
  | 'n' => some '\n'
  | 'r' => some '\r'
  | 't' => some '\t'
  | _ => none

/-- The first half of a surrogate pair. -/
def isHighSurrogate (n : Nat) : Bool := 0xD800 ≤ n && n ≤ 0xDBFF

/-- The second half of a surrogate pair. -/
def isLowSurrogate (n : Nat) : Bool := 0xDC00 ≤ n && n ≤ 0xDFFF

/-- The code point of a code unit. -/
def unitPoint (n : Nat) : CodePoint :=
  if h : 0xD800 ≤ n ∧ n ≤ 0xDFFF then .half ⟨n - 0xD800, by omega⟩ else .char (Char.ofNat n)

/-- The character of a surrogate pair. -/
def pairChar (high low : Nat) : Char :=
  Char.ofNat (0x10000 + (high - 0xD800) * 0x400 + (low - 0xDC00))

/-- A text that is shorter than `s`: what is left of it after something was read. -/
abbrev Shorter (s : List Char) : Type := { r : List Char // r.length < s.length }

/-- What is left of a text, seen from one that is no shorter. -/
def Shorter.widen {s t : List Char} (r : Shorter s) (h : s.length ≤ t.length) : Shorter t :=
  ⟨r.1, Nat.lt_of_lt_of_le r.2 h⟩

/-- The second half of a surrogate pair, if the text starts with its escape and does not end with
it. -/
def secondUnit (s : List Char) : Except Fault (Option (Nat × Shorter s)) :=
  match s with
  | '\\' :: 'u' :: a :: b :: c :: d :: e :: t =>
    match unit? a b c d with
    | none => .error (.wrong .unicodeEscape ('u' :: a :: b :: c :: d :: e :: t))
    | some low =>
      if isLowSurrogate low then .ok (some (low, ⟨e :: t, by simp⟩)) else .ok none
  | _ => .ok none

/-- Reads one escaped character from behind its backslash. Two escapes of code units in a row may
stand for one character, and the digits of an escape need one more character after them. -/
def escaped (s : List Char) : Except Fault (CodePoint × Shorter s) :=
  match s with
  | 'u' :: a :: b :: c :: d :: e :: t =>
    match unit? a b c d with
    | none => .error (.wrong .unicodeEscape s)
    | some high =>
      if isHighSurrogate high then
        match secondUnit (e :: t) with
        | .error fault => .error fault
        | .ok (some (low, r)) =>
          .ok (.char (pairChar high low), ⟨r.1, by have := r.2; simp at *; omega⟩)
        | .ok none => .ok (unitPoint high, ⟨e :: t, by simp⟩)
      else .ok (unitPoint high, ⟨e :: t, by simp⟩)
  | 'u' :: r => .error (.wrong .unicodeEscape ('u' :: r))
  | c :: r =>
    match shortEscape? c with
    | none => .error (.wrong .escape ('\\' :: s))
    | some d => .ok (.char d, ⟨r, by simp⟩)
  | [] => .error (.wrong .escape [])

/-- Reads a quoted text from behind its first quote; `start` is the text from that quote on. -/
def quoted (start s : List Char) : Except Fault (RawText × Shorter s) :=
  match s with
  | [] => .error (.wrong .unterminated start)
  | '"' :: r => .ok ([], ⟨r, by simp⟩)
  | ['\\'] => .error (.wrong .unterminated start)
  | '\\' :: c :: r => do
    let (d, rest) ← escaped (c :: r)
    have := rest.2
    let (text, last) ← quoted start rest.1
    return (d :: text, last.widen (by simp at *; omega))
  | c :: r =>
    if c.toNat < 0x20 then .error (.wrong .control (c :: r))
    else do
      let (text, last) ← quoted start r
      return (.char c :: text, last.widen (by simp))
termination_by s.length
decreasing_by all_goals simp_all <;> omega

/-! ### Numbers -/

/-- The number written by decimal digits. -/
def digitsValue (digits : List Char) : Nat :=
  digits.foldl (fun n c => 10 * n + (c.toNat - '0'.toNat)) 0

/-- The digits after a decimal point, if the text starts with a point and a digit, and what follows
them. -/
def fraction (s : List Char) : List Char × List Char :=
  match s with
  | '.' :: r =>
    if r.head?.any Char.isDigit then (r.takeWhile Char.isDigit, r.dropWhile Char.isDigit) else ([], s)
  | _ => ([], s)

/-- The sign in front of an exponent: whether it is a minus, and what follows it. -/
def exponentSign : List Char → Bool × List Char
  | '-' :: r => (true, r)
  | '+' :: r => (false, r)
  | s => (false, s)

/-- The exponent, if the text starts with a whole one, and what follows it. -/
def exponent (s : List Char) : Option Int × List Char :=
  match s with
  | c :: r =>
    if c == 'e' || c == 'E' then
      let (negative, t) := exponentSign r
      let digits := t.takeWhile Char.isDigit
      if digits.isEmpty then (none, s)
      else
        let magnitude : Int := digitsValue digits
        (some (if negative then -magnitude else magnitude), t.dropWhile Char.isDigit)
    else (none, s)
  | [] => (none, [])

/-- A number that is written: an integer of any size, or a double. -/
inductive Numeral where
  | int (value : Int)
  | double (value : Double)

/-- The value of a number, unless it is an integer that is too long. -/
def Numeral.value? : Numeral → Option Raw
  | .int value => (Integer.ofInt? value).map .int
  | .double value => some (.double value)

/-- The number with these whole digits that goes on with `s`, and what follows it. A fraction or an
exponent makes it a double. -/
def numberTail (negative : Bool) (whole s : List Char) : Numeral × List Char :=
  let (decimals, t) := fraction s
  let (power, u) := exponent t
  if decimals.isEmpty && power.isNone then
    let n : Int := digitsValue whole
    (.int (if negative then -n else n), u)
  else
    (.double (.ofDecimal negative (digitsValue (whole ++ decimals))
      (power.getD 0 - decimals.length)), u)

theorem length_dropWhile_le (p : Char → Bool) (s : List Char) :
    (s.dropWhile p).length ≤ s.length :=
  (List.dropWhile_sublist p).length_le

theorem length_fraction_snd_le (s : List Char) : (fraction s).2.length ≤ s.length := by
  unfold fraction
  split
  · rename_i r
    split
    · have := length_dropWhile_le Char.isDigit r
      simp; omega
    · simp
  · simp

theorem length_exponentSign_snd_le (s : List Char) : (exponentSign s).2.length ≤ s.length := by
  unfold exponentSign
  split <;> simp

theorem length_exponent_snd_le (s : List Char) : (exponent s).2.length ≤ s.length := by
  unfold exponent
  split
  · rename_i c r
    split
    · have h := length_exponentSign_snd_le r
      have := length_dropWhile_le Char.isDigit (exponentSign r).2
      simp only
      split
      · simp
      · simp
        omega
    · simp
  · simp

theorem length_numberTail_snd_le (negative : Bool) (whole s : List Char) :
    (numberTail negative whole s).2.length ≤ s.length := by
  have h := length_fraction_snd_le s
  have := length_exponent_snd_le (fraction s).2
  unfold numberTail
  simp only
  split <;> simp <;> omega

/-- The number without a sign that the text starts with. No digit follows a leading zero. -/
def magnitude? (negative : Bool) (s : List Char) : Option (Numeral × Shorter s) :=
  match s with
  | [] => none
  | c :: r =>
    if c = '0' then
      some ((numberTail negative ['0'] r).1, ⟨(numberTail negative ['0'] r).2,
        Nat.lt_succ_of_le (length_numberTail_snd_le negative ['0'] r)⟩)
    else if c.isDigit then
      let whole := c :: r.takeWhile Char.isDigit
      let u := r.dropWhile Char.isDigit
      some ((numberTail negative whole u).1, ⟨(numberTail negative whole u).2,
        Nat.lt_succ_of_le (Nat.le_trans (length_numberTail_snd_le negative whole u)
          (length_dropWhile_le Char.isDigit r))⟩)
    else none

/-- The number that the text starts with. -/
def number? (s : List Char) : Option (Numeral × Shorter s) :=
  match s with
  | '-' :: r => (magnitude? true r).map fun (n, rest) => (n, rest.widen (by simp))
  | s => magnitude? false s

/-! ### Values -/

/-- The words that stand for values. -/
def words : List (List Char × Raw) :=
  [("null".toList, .null), ("true".toList, .bool true), ("false".toList, .bool false),
   ("NaN".toList, .double .nan), ("Infinity".toList, .double (.infinity false)),
   ("-Infinity".toList, .double (.infinity true))]

/-- The word that the text starts with. -/
def word? (s : List Char) : Option (Raw × Shorter s) :=
  words.findSome? fun (word, value) =>
    match afterWord word s with
    | some r => if h : r.length < s.length then some (value, ⟨r, h⟩) else none
    | none => none

/-- What follows the character `c` where that is the first one that is no blank. -/
def after? (c : Char) (s : List Char) : Option (Shorter s) :=
  match h : skipSpace s with
  | [] => none
  | d :: r =>
    if c = d then
      some ⟨r, by have := length_skipSpace_le s; rw [h] at this; simp at this; omega⟩
    else none

mutual
/-- Reads a value. -/
def value (s : List Char) : Except Fault (Raw × Shorter s) :=
  match s with
  | '"' :: r => do
    let (text, rest) ← quoted ('"' :: r) r
    return (.str text, rest.widen (by simp))
  | '[' :: r =>
    match after? ']' r with
    | some rest => .ok (.arr [], rest.widen (by simp))
    | none => do
      have := length_skipSpace_le r
      let (list, rest) ← items (skipSpace r)
      return (.arr list, rest.widen (by simp; omega))
  | '\x7b' :: r =>
    match after? '\x7d' r with
    | some rest => .ok (.obj [], rest.widen (by simp))
    | none => do
      have := length_skipSpace_le r
      let (list, rest) ← members (skipSpace r) []
      return (.obj list, rest.widen (by simp; omega))
  | s =>
    -- What is no text, array or object is a word or a number.
    match word? s with
    | some found => .ok found
    | none =>
      match number? s with
      | some (number, rest) =>
        match number.value? with
        | some read => .ok (read, rest)
        | none => .error .tooLong
      | none => .error (.wrong .value s)
termination_by (s.length, 0)
decreasing_by all_goals (simp [Prod.lex_def]; omega)

/-- Reads the items of an array, from the first to the closing bracket. -/
def items (s : List Char) : Except Fault (List Raw × Shorter s) := do
  let (item, ⟨r, hr⟩) ← value s
  match after? ']' r with
  | some rest => return ([item], rest.widen (by omega))
  | none =>
    match after? ',' r with
    | some ⟨t, ht⟩ =>
      have := length_skipSpace_le t
      let (list, rest) ← items (skipSpace t)
      return (item :: list, rest.widen (by omega))
    | none => .error (.wrong .comma (skipSpace r))
termination_by (s.length, 1)
decreasing_by all_goals (simp [Prod.lex_def]; try omega)

/-- Reads the members of an object, from the first to the closing bracket, after the members
`before` them. -/
def members (s : List Char) (before : RawMembers) : Except Fault (RawMembers × Shorter s) :=
  match s with
  | '"' :: r => do
    let (name, ⟨t, ht⟩) ← quoted ('"' :: r) r
    match after? ':' t with
    | none => .error (.wrong .colon (skipSpace t))
    | some ⟨u, hu⟩ =>
      have := length_skipSpace_le u
      let (member, ⟨v, hv⟩) ← value (skipSpace u)
      let after := assign before name member
      match after? '\x7d' v with
      | some rest => return (after, rest.widen (by simp; omega))
      | none =>
        match after? ',' v with
        | some ⟨w, hw⟩ =>
          have := length_skipSpace_le w
          let (list, rest) ← members (skipSpace w) after
          return (list, rest.widen (by simp; omega))
        | none => .error (.wrong .comma (skipSpace v))
  | s => .error (.wrong .name s)
termination_by (s.length, 1)
decreasing_by all_goals (simp [Prod.lex_def]; omega)
end

/-- The value that a text consists of. -/
def parseChars (s : List Char) : Except Fault Raw := do
  if s.head? = some '\uFEFF' then throw (.wrong .byteOrderMark s)
  let (v, rest) ← value (skipSpace s)
  match skipSpace rest.1 with
  | [] => return v
  | t => throw (.wrong .extra t)

/-- Why a text gives no value. -/
inductive Misreading where
  /-- It is not JSON. -/
  | malformed (failure : SyntaxError)
  /-- An integer in it has too many digits. -/
  | tooLong
  /-- A text in it holds half of a surrogate pair. -/
  | halfPair
deriving DecidableEq, Repr

/-- What is wrong with the whole text. -/
def Fault.locate (whole : List Char) : Fault → Misreading
  | .wrong problem rest => .malformed (problem.locate whole rest)
  | .tooLong => .tooLong

/-- What a JSON text says. -/
def parseRaw (text : String) : Except Misreading Raw :=
  (parseChars text.toList).mapError (Fault.locate text.toList)

/-- The value of a JSON text. -/
def parse (text : String) : Except Misreading Json := do
  match (← parseRaw text).toJson? with
  | some value => return value
  | none => throw .halfPair

end SchemaPress.Json
