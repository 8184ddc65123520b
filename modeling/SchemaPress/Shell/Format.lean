import SchemaPress.Decimal.Fixed
import SchemaPress.Shell.Arithmetic

/-!
# Printing by a format

The texts of `echo` and `printf`. A format is printed again and again until no argument is left; its
directives take the arguments one after the other, and an argument that is missing is empty or zero.
-/

namespace SchemaPress.Shell

/-! ### Escapes -/

/-- The byte of a one-letter escape. -/
def escapeByte? (c : Char) : Option Char :=
  match c with
  | 'a' => some '\x07'
  | 'b' => some '\x08'
  | 'f' => some '\x0c'
  | 'n' => some '\n'
  | 'r' => some '\r'
  | 't' => some '\t'
  | 'v' => some '\x0b'
  | '\\' => some '\\'
  | _ => none

/-- Whether the character is an octal digit. -/
def isOctal (c : Char) : Bool :=
  decide ('0' ≤ c) && decide (c ≤ '7')

/-- The byte that octal digits write. -/
def octalByte (digits : List Char) : Char :=
  Char.ofNat (digits.foldl (fun n c => 8 * n + (c.toNat - '0'.toNat)) 0 % 256)

/-- The byte of the escape whose backslash stands in front, and how many characters it takes. An
escape that means nothing is the backslash itself. -/
def escaped (chars : List Char) : Char × Nat :=
  match chars with
  | [] => ('\\', 0)
  | c :: rest =>
    if isOctal c then
      let digits := c :: (rest.take 2).takeWhile isOctal
      (octalByte digits, digits.length)
    else
      match escapeByte? c with
      | some byte => (byte, 1)
      | none => ('\\', 0)

/-- Like `escaped`, but a zero may stand in front of octal digits. -/
def escapedLong (chars : List Char) : Char × Nat :=
  match chars with
  | '0' :: d :: more =>
    if isOctal d then
      let (byte, size) := escaped (d :: more)
      (byte, size + 1)
    else escaped chars
  | chars => escaped chars

/-- A text with its escapes carried out; the first `skipped` characters belong to an escape in front.
`\c` ends the output, which is told by the truth value. -/
def carriedOut (skipped : Nat) : List Char → List Char × Bool
  | [] => ([], false)
  | c :: rest =>
    match skipped with
    | n + 1 => carriedOut n rest
    | 0 =>
      if c != '\\' then
        let (text, ended) := carriedOut 0 rest
        (c :: text, ended)
      else if rest.head? == some 'c' then ([], true)
      else
        let (byte, size) := escapedLong rest
        let (text, ended) := carriedOut size rest
        (byte :: text, ended)

/-- What `echo` prints. -/
def echoText (arguments : List String) : String :=
  let (arguments, ending) := match arguments with
    | "-n" :: rest => (rest, "")
    | rest => (rest, "\n")
  let (text, ended) := carriedOut 0 (" ".intercalate arguments).toList
  String.ofList text ++ if ended then "" else ending

/-! ### Directives -/

/-- How the text of a directive is laid out. -/
structure Layout where
  /-- The signs of the directive. -/
  flags : List Char := []
  /-- The least number of characters. -/
  width : Nat := 0
  /-- The number of digits or characters that the directive names. -/
  precision : Option Nat := none

/-- Whether a sign is there. -/
def Layout.has (layout : Layout) (flag : Char) : Bool :=
  layout.flags.contains flag

/-- A text brought to its least width. Zeros go between a sign and its digits. -/
def Layout.pad (layout : Layout) (zeros : Bool) (sign body : String) : String :=
  let missing := layout.width - (sign.length + body.length)
  if layout.has '-' then sign ++ body ++ String.ofList (List.replicate missing ' ')
  else if zeros && layout.has '0' then sign ++ String.ofList (List.replicate missing '0') ++ body
  else String.ofList (List.replicate missing ' ') ++ sign ++ body

/-- The sign in front of a number that has one. -/
def Layout.signOf (layout : Layout) (negative : Bool) : String :=
  if negative then "-" else if layout.has '+' then "+" else if layout.has ' ' then " " else ""

/-- A text, cut to its precision. -/
def Layout.text (layout : Layout) (text : String) : String :=
  let cut := match layout.precision with
    | some n => String.ofList (text.toList.take n)
    | none => text
  layout.pad false "" cut

/-- Digits of a number, with as many zeros as the precision asks for. -/
def Layout.digits (layout : Layout) (base n : Nat) : String :=
  let digits := if n = 0 && layout.precision = some 0 then [] else Nat.toDigits base n
  String.ofList (List.replicate ((layout.precision.getD 0) - digits.length) '0' ++ digits)

/-- A number with a sign. -/
def Layout.signed (layout : Layout) (n : Int) : String :=
  layout.pad layout.precision.isNone (layout.signOf (decide (n < 0))) (layout.digits 10 n.natAbs)

/-- A number without a sign, in the base that a letter names. -/
def Layout.unsigned (layout : Layout) (letter : Char) (n : Nat) : String :=
  let zeros := layout.precision.isNone
  match letter with
  | 'o' =>
    let body := layout.digits 8 n
    layout.pad zeros "" (if layout.has '#' && !body.startsWith "0" then "0" ++ body else body)
  | 'x' =>
    layout.pad zeros (if layout.has '#' && n ≠ 0 then "0x" else "") (layout.digits 16 n)
  | 'X' =>
    layout.pad zeros (if layout.has '#' && n ≠ 0 then "0X" else "") (layout.digits 16 n).toUpper
  | _ => layout.pad zeros "" (layout.digits 10 n)

/-- A double, in the form that a letter names. -/
def Layout.double (layout : Layout) (letter : Char) (value : Double) : String :=
  let places := layout.precision.getD 6
  let pointed := layout.has '#'
  let upper (text : String) : String := if letter.isUpper then text.toUpper else text
  match value with
  | .nan => layout.pad false (layout.signOf false) (upper "nan")
  | .infinity negative => layout.pad false (layout.signOf negative) (upper "inf")
  | .finite negative mantissa exponent =>
    let body := match letter.toLower with
      | 'f' => Double.fixedText mantissa exponent places pointed
      | 'e' => Double.scientificText mantissa exponent places pointed
      | _ => Double.generalText mantissa exponent places pointed
    layout.pad true (layout.signOf negative) (upper body)

/-! ### Numbers as arguments -/

/-- A number that an argument writes: the number, whether the argument goes on behind it, and whether
it has no number at all. -/
structure Numeral (α : Type) where
  /-- The number. -/
  value : α
  /-- Whether there is no number. -/
  absent : Bool
  /-- Whether the argument goes on behind the number. -/
  partly : Bool
  /-- Whether the number is too large. -/
  excessive : Bool

/-- The integer at the front of an argument, within bounds. A quote in front stands for the number of
the next byte. -/
def integerOf (signed : Bool) (text : String) : Numeral Int :=
  match text.toList with
  | '"' :: rest => ⟨(rest.head?.map (fun c => (c.toNat : Int))).getD 0, false, false, false⟩
  | '\'' :: rest => ⟨(rest.head?.map (fun c => (c.toNat : Int))).getD 0, false, false, false⟩
  | chars =>
    let blankless := chars.dropWhile Sum.isSpace
    let (negative, digits) := match blankless with
      | '-' :: rest => (true, rest)
      | '+' :: rest => (false, rest)
      | rest => (false, rest)
    if (digits.head?.any Char.isDigit) then
      let (n, rest) := Sum.unsigned digits
      let value : Int := if negative then -(n : Int) else n
      let bounded := if signed then Sum.saturate value
        else if 18446744073709551615 < n then 18446744073709551615 else value
      ⟨bounded, false, !rest.isEmpty, bounded ≠ value⟩
    else ⟨0, !chars.isEmpty, !chars.isEmpty, false⟩

/-- The number that decimal digits write. -/
def decimalNumber (digits : List Char) : Nat :=
  digits.foldl (fun n c => 10 * n + (c.toNat - '0'.toNat)) 0

/-- The exponent at the front of a text, and the characters behind it. -/
def exponentOf (chars : List Char) : Int × List Char :=
  match chars with
  | c :: rest =>
    if c == 'e' || c == 'E' then
      let (negative, digits) := match rest with
        | '-' :: digits => (true, digits)
        | '+' :: digits => (false, digits)
        | digits => (false, digits)
      let shown := digits.takeWhile Char.isDigit
      if shown.isEmpty then (0, chars)
      else
        let n : Int := decimalNumber shown
        (if negative then -n else n, digits.drop shown.length)
    else (0, chars)
  | [] => (0, [])

/-- The decimal number at the front of an argument. -/
def doubleOf (text : String) : Numeral Double :=
  match text.toList with
  | '"' :: rest => ⟨Double.ofDecimal false ((rest.head?.map Char.toNat).getD 0) 0, false, false, false⟩
  | '\'' :: rest => ⟨Double.ofDecimal false ((rest.head?.map Char.toNat).getD 0) 0, false, false, false⟩
  | chars =>
    let blankless := chars.dropWhile Sum.isSpace
    let (negative, digits) := match blankless with
      | '-' :: rest => (true, rest)
      | '+' :: rest => (false, rest)
      | rest => (false, rest)
    let whole := digits.takeWhile Char.isDigit
    let rest := digits.drop whole.length
    let (fraction, rest) := match rest with
      | '.' :: rest => (rest.takeWhile Char.isDigit, rest.dropWhile Char.isDigit)
      | rest => ([], rest)
    if whole.isEmpty && fraction.isEmpty then
      ⟨Double.ofDecimal false 0 0, !chars.isEmpty, !chars.isEmpty, false⟩
    else
      let (exponent, rest) := exponentOf rest
      let value := Double.ofDecimal negative (decimalNumber (whole ++ fraction))
        (exponent - fraction.length)
      ⟨value, false, !rest.isEmpty, value matches .infinity _⟩

/-! ### Formats -/

/-- A printing at work. -/
structure Printing where
  /-- The arguments that are left. -/
  arguments : List String
  /-- What was printed, the last character first. -/
  printed : List Char := []
  /-- The complaints, the last one first. -/
  complaints : List String := []
  /-- Whether the printing is over. -/
  ended : Bool := false
  /-- The complaint that the printing failed by. -/
  failure : Option String := none

namespace Printing

/-- More text. -/
def add (printing : Printing) (text : String) : Printing :=
  { printing with printed := text.toList.reverse ++ printing.printed }

/-- The complaint about an argument that is no proper number. -/
def check {α : Type} (printing : Printing) (text : String) (numeral : Numeral α) : Printing :=
  let complain (reason : String) : Printing :=
    { printing with complaints := (text ++ ": " ++ reason) :: printing.complaints }
  if numeral.absent then complain "expected numeric value"
  else if numeral.partly then complain "not completely converted"
  else if numeral.excessive then complain "Numerical result out of range"
  else printing

/-- Takes an argument. -/
def argument (printing : Printing) : Option String × Printing :=
  (printing.arguments.head?, { printing with arguments := printing.arguments.drop 1 })

/-- Takes an argument as an integer. -/
def integer (printing : Printing) (signed : Bool) : Int × Printing :=
  match printing.argument with
  | (none, printing) => (0, printing)
  | (some text, printing) =>
    let numeral := integerOf signed text
    (numeral.value, printing.check text numeral)

/-- Prints an argument as a directive says. -/
def convert (printing : Printing) (layout : Layout) (letter : Char) : Printing :=
  match letter with
  | 's' =>
    let (text, printing) := printing.argument
    printing.add (layout.text (text.getD ""))
  | 'b' =>
    let (text, printing) := printing.argument
    let (text, ended) := carriedOut 0 (text.getD "").toList
    { printing.add (layout.text (String.ofList text)) with ended }
  | 'c' =>
    let (text, printing) := printing.argument
    printing.add (layout.pad false "" (String.singleton ((text.getD "").toList.head?.getD '\x00')))
  | 'd' | 'i' =>
    let (n, printing) := printing.integer true
    printing.add (layout.signed n)
  | 'o' | 'u' | 'x' | 'X' =>
    let (n, printing) := printing.integer false
    printing.add (layout.unsigned letter (n % 18446744073709551616).toNat)
  | _ =>
    match printing.argument with
    | (none, printing) => printing.add (layout.double letter (Double.ofDecimal false 0 0))
    | (some text, printing) =>
      let numeral := doubleOf text
      (printing.check text numeral).add (layout.double letter numeral.value)

end Printing

/-- The letters of directives. -/
def directiveLetters : List Char := "sbcdiouxXeEfFgG".toList

/-- A width or precision at the front of a directive, and the characters behind it. -/
def measureOf (printing : Printing) (chars : List Char) : Option Int × Printing × List Char :=
  match chars with
  | '*' :: rest =>
    let (n, printing) := printing.integer true
    (some n, printing, rest)
  | chars =>
    let digits := chars.takeWhile Char.isDigit
    (if digits.isEmpty then none else some (decimalNumber digits), printing,
      chars.drop digits.length)

/-- Prints a directive, whose sign stands in front of the characters, and gives what is behind it. -/
def directive (printing : Printing) (chars : List Char) : Printing × List Char :=
  let flags := chars.takeWhile fun c => "#-+ 0".toList.contains c
  let (width, printing, rest) := measureOf printing (chars.drop flags.length)
  let (precision, printing, rest) := match rest with
    | '.' :: rest =>
      let (n, printing, rest) := measureOf printing rest
      (some (n.getD 0), printing, rest)
    | rest => (none, printing, rest)
  match rest with
  | [] => ({ printing with failure := some "missing format character" }, [])
  | letter :: rest =>
    if directiveLetters.contains letter then
      let width := width.getD 0
      let flags := if width < 0 then '-' :: flags else flags
      let precision := precision.bind fun n => if n < 0 then none else some n.toNat
      (printing.convert { flags, width := width.natAbs, precision } letter, rest)
    else
      let shown := chars.take (chars.length - rest.length)
      ({ printing with
        failure := some ("%" ++ String.ofList shown ++ ": invalid directive") }, [])

/-- Prints a format once. -/
def printOnce (fuel : Nat) (printing : Printing) (format : List Char) : Printing :=
  match fuel, format with
  | 0, _ => printing
  | _, [] => printing
  | fuel + 1, c :: rest =>
    if printing.ended || printing.failure.isSome then printing
    else if c == '\\' then
      let (byte, size) := escaped rest
      printOnce fuel (printing.add (String.singleton byte)) (rest.drop size)
    else if c == '%' then
      match rest with
      | '%' :: rest => printOnce fuel (printing.add "%") rest
      | rest =>
        let (printing, rest) := directive printing rest
        printOnce fuel printing rest
    else printOnce fuel (printing.add (String.singleton c)) rest

/-- Prints a format until no argument is left. A format without directives is printed once. -/
def printAll (rounds : Nat) (printing : Printing) (format : List Char) : Printing :=
  let next := printOnce (format.length + 1) printing format
  match rounds with
  | 0 => next
  | rounds + 1 =>
    if next.arguments.isEmpty || next.ended || next.failure.isSome ||
        next.arguments.length = printing.arguments.length then next
    else printAll rounds next format

/-- What `printf` prints by a format. -/
def printFormat (format : String) (arguments : List String) : Printing :=
  printAll arguments.length { arguments } format.toList

end SchemaPress.Shell
