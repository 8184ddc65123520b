/-!
# Characters and pieces of texts

Classes of characters of the Unicode standard are kept as ascending lists of inclusive ranges of code points.
Digits of base sixteen are read in both cases, as escapes write them. A text is cut at every occurrence of a
character, at the first one, or into its words.

The decimal digits of a script are ten consecutive code points. A further class of characters (superscripts,
circled figures, …) counts as digits but has no place value: an array index written with one of them looks
like a number and is none.

What separates the words of a description and surrounds a version is blank: every character that the Unicode
standard calls white space, and the four information separators of ASCII.
-/

namespace SchemaPress.Text

/-- Whether one of the ranges holds the character. -/
def inRanges (ranges : List (Nat × Nat)) (c : Char) : Bool :=
  ranges.any fun (low, high) => low ≤ c.toNat && c.toNat ≤ high

/-! ### Hexadecimal digits -/

/-- The value of a hexadecimal digit. -/
def hexValue? (c : Char) : Option Nat :=
  if c.isDigit then some (c.toNat - '0'.toNat)
  else if 'a' ≤ c ∧ c ≤ 'f' then some (c.toNat - 'a'.toNat + 10)
  else if 'A' ≤ c ∧ c ≤ 'F' then some (c.toNat - 'A'.toNat + 10)
  else none

/-- Whether the character is a hexadecimal digit. -/
def isHexDigit (c : Char) : Bool :=
  (hexValue? c).isSome

/-- The number that hexadecimal digits write. -/
def hexNumber? (digits : List Char) : Option Nat :=
  digits.foldlM (fun n c => (hexValue? c).map (16 * n + ·)) 0

/-! ### Digits of every script -/

/-- The zero of each script's run of ten decimal digits. -/
def decimalZeros : List Nat := [
  0x30, 0x660, 0x6F0, 0x7C0, 0x966, 0x9E6, 0xA66, 0xAE6, 0xB66, 0xBE6, 0xC66, 0xCE6, 0xD66, 0xDE6,
  0xE50, 0xED0, 0xF20, 0x1040, 0x1090, 0x17E0, 0x1810, 0x1946, 0x19D0, 0x1A80, 0x1A90, 0x1B50,
  0x1BB0, 0x1C40, 0x1C50, 0xA620, 0xA8D0, 0xA900, 0xA9D0, 0xA9F0, 0xAA50, 0xABF0, 0xFF10, 0x104A0,
  0x10D30, 0x11066, 0x110F0, 0x11136, 0x111D0, 0x112F0, 0x11450, 0x114D0, 0x11650, 0x116C0, 0x11730,
  0x118E0, 0x11950, 0x11C50, 0x11D50, 0x11DA0, 0x16A60, 0x16AC0, 0x16B50, 0x1D7CE, 0x1D7D8, 0x1D7E2,
  0x1D7EC, 0x1D7F6, 0x1E140, 0x1E2F0, 0x1E950, 0x1FBF0]

/-- Digits without a place value. -/
def figureRanges : List (Nat × Nat) := [
  (0xB2, 0xB3), (0xB9, 0xB9), (0x1369, 0x1371), (0x19DA, 0x19DA), (0x2070, 0x2070),
  (0x2074, 0x2079), (0x2080, 0x2089), (0x2460, 0x2468), (0x2474, 0x247C), (0x2488, 0x2490),
  (0x24EA, 0x24EA), (0x24F5, 0x24FD), (0x24FF, 0x24FF), (0x2776, 0x277E), (0x2780, 0x2788),
  (0x278A, 0x2792), (0x10A40, 0x10A43), (0x10E60, 0x10E68), (0x11052, 0x1105A), (0x1F100, 0x1F10A)]

/-- The value of a decimal digit of any script. -/
def decimalValue? (c : Char) : Option Nat :=
  (decimalZeros.find? fun first => first ≤ c.toNat && c.toNat < first + 10).map (c.toNat - ·)

/-- Whether the character is a digit, with or without a place value. -/
def isDigit (c : Char) : Bool :=
  (decimalValue? c).isSome || inRanges figureRanges c

/-! ### Cutting a text at a character -/

/-- The pieces of a text between the occurrences of `mark`; one more piece than there are marks. -/
def pieces (mark : Char) : List Char → List (List Char)
  | [] => [[]]
  | c :: rest =>
    match pieces mark rest with
    | [] => []
    | piece :: others => if c = mark then [] :: piece :: others else (c :: piece) :: others

/-- The characters in front of the first `mark`, and those behind it if there is one. -/
def cutAt (mark : Char) : List Char → List Char × Option (List Char)
  | [] => ([], none)
  | c :: rest =>
    if c = mark then ([], some rest)
    else
      let (before, after) := cutAt mark rest
      (c :: before, after)

/-! ### Blank characters -/

/-- Whether the character is blank. -/
def isBlank (c : Char) : Bool :=
  let n := c.toNat
  (0x9 ≤ n && n ≤ 0xD) || (0x1C ≤ n && n ≤ 0x20) || n == 0x85 || n == 0xA0 || n == 0x1680 ||
    (0x2000 ≤ n && n ≤ 0x200A) || n == 0x2028 || n == 0x2029 || n == 0x202F || n == 0x205F ||
    n == 0x3000

/-- One character in front of words that start right after it: a blank closes the word in front of
it, any other character joins the word that starts at `current`. -/
def blankStep (c : Char) : List Char × List (List Char) → List Char × List (List Char)
  | (current, later) =>
    if isBlank c then ([], if current.isEmpty then later else current :: later)
    else (c :: current, later)

/-- The maximal runs of characters that are not blank. -/
def unblankRuns (text : List Char) : List (List Char) :=
  let (current, later) := text.foldr blankStep ([], [])
  if current.isEmpty then later else current :: later

/-- The text's words, where blanks of any kind and number separate words. -/
def splitBlank (text : String) : List String :=
  (unblankRuns text.toList).map String.ofList

/-- The characters without the blanks in front. -/
def stripFront (text : List Char) : List Char :=
  text.dropWhile isBlank

/-- The text without the blanks around it. -/
def strip (text : String) : String :=
  String.ofList (stripFront (stripFront text.toList).reverse).reverse

end SchemaPress.Text
