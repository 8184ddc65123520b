import SchemaPress.Text.Basic
import SchemaPress.Text.Rest

/-!
# Texts, numbers and dates

Which characters a single value may consist of. A text is read up to its closing quote, with its
meaning, because keys may be written as texts; of numbers, dates and times only the form is checked.
-/

namespace SchemaPress.Toml

/-- Blanks within a line. -/
def isSpace (c : Char) : Bool :=
  c == ' ' || c == '\t'

/-- A character that neither texts nor comments may hold. -/
def isControl (c : Char) : Bool :=
  (c.toNat < 0x20 && c != '\t') || c.toNat == 0x7F

/-! ### Texts -/

/-- The character with the number that the digits write. A number of four digits is no half of a
surrogate pair. -/
def numberedChar? (digits : List Char) : Option Char := do
  let n ← Text.hexNumber? digits
  if n ≥ 0x110000 || (digits.length = 4 && 0xD800 ≤ n && n ≤ 0xDFFF) then none
  else if 0xD800 ≤ n && n ≤ 0xDFFF then some '\uFFFD'
  else some (Char.ofNat n)

/-- The character that a one-letter escape stands for. -/
def shortEscape? (c : Char) : Option Char :=
  match c with
  | '"' => some '"'
  | '\\' => some '\\'
  | 'b' => some '\x08'
  | 'e' => some '\x1b'
  | 'f' => some '\x0c'
  | 'n' => some '\n'
  | 'r' => some '\r'
  | 't' => some '\t'
  | _ => none

/-- Reads an escape from behind its backslash. Between three quotes a backslash at the end of a line
hides the end of the line and the blanks around it. -/
def escape (multiline : Bool) (s : List Char) : Option (List Char × Rest s) :=
  match s with
  | [] => none
  | c :: r =>
    if multiline && (isSpace c || c == '\n') then
      let hidden := (c :: r).takeWhile fun c => isSpace c || c == '\n'
      if hidden.contains '\n' then
        some ([], (Rest.tail c r).skip fun c => isSpace c || c == '\n')
      else none
    else
      match shortEscape? c with
      | some d => some ([d], .tail c r)
      | none =>
        let count := if c == 'x' then 2 else if c == 'u' then 4 else if c == 'U' then 8 else 0
        if count = 0 || r.length < count then none
        else (numberedChar? (r.take count)).map fun d => ([d], Rest.dropSome count c r)

/-- Reads a text from behind its opening quote or quotes `mark`. Between three quotes up to two
quotes in a row belong to the text, and so may two more in front of the closing ones. -/
def textTail (mark : Char) (multiline : Bool) (s : List Char) : Option (List Char × Rest s) :=
  match s with
  | [] => none
  | c :: r =>
    if c == mark then
      if multiline then
        let more := r.takeWhile (· == mark)
        let rest := (Rest.tail c r).skip (· == mark)
        if more.length + 1 < 3 then do
          have := rest.shorter
          let (text, last) ← textTail mark multiline rest.chars
          return (c :: more ++ text, rest.trans last)
        -- The last three quotes close the text; up to two in front of them are its own.
        else if more.length + 1 < 6 then some (more.drop 2, rest)
        else none
      else some ([], .tail c r)
    else if isControl c && !(multiline && c == '\n') then none
    else if c == '\\' && mark == '"' then do
      let (front, rest) ← escape multiline r
      have := rest.shorter
      let (text, last) ← textTail mark multiline rest.chars
      return (front ++ text, (Rest.tail c r).trans (rest.trans last))
    else do
      let (text, last) ← textTail mark multiline r
      return (c :: text, (Rest.tail c r).trans last)
termination_by s.length
decreasing_by all_goals (simp_all <;> omega)

/-- Reads a text on one line, from its opening quote on. -/
def lineText (s : List Char) : Option (List Char × Rest s) :=
  match s with
  | c :: r =>
    if c == '"' || c == '\'' then
      (textTail c false r).map fun (text, rest) => (text, (Rest.tail c r).trans rest)
    else none
  | [] => none

/-- Reads a text of either kind, from its opening quote on. -/
def anyText (s : List Char) : Option (Rest s) :=
  match s with
  | a :: b :: c :: r =>
    if a == b && b == c && (a == '"' || a == '\'') then
      (textTail a true r).map fun (_, rest) =>
        rest.widen ((List.suffix_cons c r).trans
          ((List.suffix_cons b _).trans (List.suffix_cons a _)))
    else (lineText (a :: b :: c :: r)).map Prod.snd
  | s => (lineText s).map Prod.snd

/-! ### Numbers -/

/-- Whether the character is a digit of the base. -/
def isDigitOf (base : Nat) (c : Char) : Bool :=
  match Text.decimalValue? c with
  | some n => n < base
  | none => base == 16 && (('a' ≤ c && c ≤ 'f') || ('A' ≤ c && c ≤ 'F'))

/-- Whether an underscore may stand beside the character. -/
def isGrouped (base : Nat) (c : Char) : Bool :=
  c.toNat < 0x80 && isDigitOf base c

/-- The digits that go on behind `before`, without the underscores between two of them. -/
def ungrouped (base : Nat) (before : Char) : List Char → List Char
  | '_' :: c :: rest =>
    if isGrouped base before && isGrouped base c then c :: ungrouped base c rest
    else '_' :: c :: ungrouped base c rest
  | c :: rest => c :: ungrouped base c rest
  | [] => []

/-- The base that the first characters of a number tell. -/
def baseOf : List Char → Nat
  | '0' :: 'b' :: _ => 2
  | '0' :: 'o' :: _ => 8
  | '0' :: 'x' :: _ => 16
  | _ => 10

/-- Whether the characters are one or more digits of the base. -/
def areDigits (base : Nat) (s : List Char) : Bool :=
  !s.isEmpty && s.all (isDigitOf base)

/-- Whether the characters are a power of ten behind its sign. -/
def isPower : List Char → Bool
  | '+' :: s => areDigits 10 s
  | '-' :: s => areDigits 10 s
  | s => areDigits 10 s

/-- Whether the characters are a number with digits in front of its point, or one of the words for
numbers that have no digits. -/
def isDecimal (s : List Char) : Bool :=
  s == "inf".toList || s == "nan".toList ||
    let whole := s.takeWhile (isDigitOf 10)
    let rest := s.dropWhile (isDigitOf 10)
    let decimals := match rest with
      | '.' :: t => t.takeWhile (isDigitOf 10)
      | _ => []
    let power := match rest with
      | '.' :: t => t.dropWhile (isDigitOf 10)
      | t => t
    !whole.isEmpty && (rest.head? != some '.' || !decimals.isEmpty) &&
      match power with
      | [] => true
      | c :: t => (c == 'e' || c == 'E') && isPower t

/-- Whether the characters are a number without a sign. No zero stands in front of another digit,
and `signed` numbers are decimal. -/
def isMagnitude (signed : Bool) (s : List Char) : Bool :=
  match s with
  | [] => false
  | first :: rest =>
    let base := baseOf s
    let leadingZero := first == '0' &&
      match rest with
      | [] => false
      | c :: _ => !(['.', 'o', 'x', 'b', 'e', 'E'].contains c)
    let clean := first :: ungrouped base first rest
    let stripped := (Text.stripFront (Text.stripFront clean).reverse).reverse
    !leadingZero && !(signed && base != 10) && !clean.contains '_' &&
      (if base = 10 then areDigits 10 stripped || isDecimal stripped
       else areDigits base (stripped.drop 2))

/-- Whether the characters are a number. -/
def isNumber : List Char → Bool
  | '+' :: s => isMagnitude true s
  | '-' :: s => isMagnitude true s
  | s => isMagnitude false s

/-! ### Dates and times -/

/-- The number that exactly `count` digits write. -/
def digits? (count : Nat) (s : List Char) : Option Nat :=
  if s.length = count && s.all Char.isDigit then
    some (s.foldl (fun n c => 10 * n + (c.toNat - '0'.toNat)) 0)
  else none

/-- The number of days of a month. -/
def daysOf (year month : Nat) : Nat :=
  if month = 2 then
    if year % 4 = 0 && (year % 100 != 0 || year % 400 = 0) then 29 else 28
  else if [4, 6, 9, 11].contains month then 30
  else 31

/-- Whether the characters are a day of the calendar, as `1979-05-27`. -/
def isDate (s : List Char) : Bool :=
  match digits? 4 (s.take 4), digits? 2 ((s.drop 5).take 2), digits? 2 (s.drop 8) with
  | some year, some month, some day =>
    s[4]? == some '-' && s[7]? == some '-' && 1 ≤ year && 1 ≤ month && month ≤ 12 && 1 ≤ day &&
      day ≤ daysOf year month
  | _, _, _ => false

/-- Whether the characters are two numbers below these bounds with a colon between them. -/
def isClock (s : List Char) (hours minutes : Nat) : Bool :=
  match digits? 2 (s.take 2), digits? 2 (s.drop 3) with
  | some hour, some minute => s[2]? == some ':' && hour < hours && minute < minutes
  | _, _ => false

/-- Whether the characters are the seconds of a time, with a colon in front. -/
def isSeconds (s : List Char) : Bool :=
  s[0]? == some ':' &&
    (match digits? 2 ((s.drop 1).take 2) with
     | some second => second < 60
     | none => false) &&
    match s.drop 3 with
    | [] => true
    | c :: fraction => c == '.' && !fraction.isEmpty && fraction.all Char.isDigit

/-- Whether the characters are a time of the day, as `07:32:00.5`. The seconds may be left out. -/
def isTime (s : List Char) : Bool :=
  isClock (s.take 5) 24 60 && ((s.drop 5).isEmpty || isSeconds (s.drop 5))

/-- Whether the characters are a difference to universal time. -/
def isZone : List Char → Bool
  | ['Z'] => true
  | ['z'] => true
  | c :: s => (c == '+' || c == '-') && isClock s 24 60
  | [] => true

/-- Whether the characters are a day and a time. -/
def isMoment (s : List Char) : Bool :=
  let time := (s.drop 11).takeWhile fun c => c.isDigit || c == ':' || c == '.'
  isDate (s.take 10) && (match s[10]? with
    | some c => c == 'T' || c == 't' || c == ' '
    | none => false) &&
    isTime time && isZone (s.drop (11 + time.length))

end SchemaPress.Toml
