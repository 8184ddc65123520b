import SchemaPress.SourceCheck.Token
import SchemaPress.Text.Basic
import SchemaPress.Text.Identifier
import SchemaPress.Text.Literal
import SchemaPress.Text.Printable
import SchemaPress.Text.Rest

/-!
# From source text to tokens

The lines of a source are grouped by their indentation, except within brackets, where the ends of
lines mean nothing. The lexer stops at the first fault; how loud a fault is, is told by `Trouble`.
-/

namespace SchemaPress.SourceCheck

/-- The blanks in front of a line that begins. -/
structure Margin where
  /-- How far they reach: with tabulators up to the next multiple of eight columns, and with tabulators
  of one column. -/
  width : Nat × Nat
  /-- How far they reached in front of the first backslash among them that had any in front of it. It
  joins the line with the next one, whose blanks mean nothing then. -/
  fixed : Option Nat
deriving DecidableEq, Repr

/-- Where the lexer stands. -/
structure Place where
  /-- The line. -/
  line : Nat
  /-- The open brackets with their lines, the innermost one first. -/
  brackets : List (Char × Nat)
  /-- The indentations in force, the innermost one first, in both widths, which have to agree on what is
  deeper. -/
  indents : List (Nat × Nat)
  /-- The margin, where a line begins. -/
  margin : Option Margin
deriving DecidableEq, Repr

/-- The number of brackets that may be open. -/
def maxBrackets : Nat := 200

/-- The number of indentations that may be in force, the margin of the source among them. -/
def maxIndents : Nat := 100

/-! ### Numbers -/

/-- The length of a run of digits with single underscores between them; `none` after an underscore
without a digit. -/
def digitRun (isDigit : Char → Bool) : List Char → Option Nat
  | '_' :: c :: rest => if isDigit c then (digitRun isDigit rest).map (· + 2) else none
  | ['_'] => none
  | c :: rest => if isDigit c then (digitRun isDigit rest).map (· + 1) else some 0
  | [] => some 0

/-- Whether the character may stand in a name. -/
def isWordChar (c : Char) : Bool :=
  c.isAlphanum || c == '_' || c.toNat ≥ 0x80

/-- Whether the character may begin a name. -/
def isWordStart (c : Char) : Bool :=
  c.isAlpha || c == '_' || c.toNat ≥ 0x80

/-- Whether a keyword follows that may stand behind a number at once. Of a word that begins with `if`,
`in` or `is` no more is looked at. -/
def leadsOnNumber (s : List Char) : Bool :=
  ["if", "in", "is"].any (fun word => word.toList.isPrefixOf s) ||
    ["and", "else", "for", "not", "or"].any fun word =>
      word.toList.isPrefixOf s && !((s.drop word.length).head?.any isWordChar)

/-- The length of a number that `length` characters of are read, unless a name follows it. -/
def closeNumber (kind : String) (length : Nat) (rest : List Char) : Except String Nat :=
  match rest with
  | c :: _ =>
    if isWordChar c && !leadsOnNumber rest then
      .error ("invalid " ++ kind ++ " literal")
    else .ok length
  | [] => .ok length

/-- The length of a number in a base of its own, from behind its two first characters. -/
def prefixedNumber (kind : String) (isDigit : Char → Bool) (s : List Char) : Except String Nat :=
  let invalid : Except String Nat :=
    match s.find? fun c => !(isDigit c || c == '_') with
    | some c =>
      if c.isDigit && kind ≠ "hexadecimal" then
        .error ("invalid digit '" ++ String.singleton c ++ "' in " ++ kind ++ " literal")
      else .error ("invalid " ++ kind ++ " literal")
    | none => .error ("invalid " ++ kind ++ " literal")
  match digitRun isDigit ('_' :: (if s.head? = some '_' then s.drop 1 else s)) with
  | none => invalid
  | some n =>
    let length := if s.head? = some '_' then n else n - 1
    match s.drop length with
    | c :: _ => if c.isDigit then invalid else closeNumber kind (length + 2) (s.drop length)
    | [] => .ok (length + 2)

/-- The length of the power of ten or the imaginary unit behind a number of `length` characters. -/
def numberEnd (length : Nat) (s : List Char) : Except String Nat :=
  let imaginary (length : Nat) (s : List Char) : Except String Nat :=
    match s with
    | c :: rest =>
      if c == 'j' || c == 'J' then closeNumber "imaginary" (length + 1) rest
      else closeNumber "decimal" length s
    | [] => .ok length
  match s with
  | c :: rest =>
    if c == 'e' || c == 'E' then
      let signed := match rest with
        | '+' :: _ => 1
        | '-' :: _ => 1
        | _ => 0
      let digits := rest.drop signed
      if digits.head?.any Char.isDigit then
        match digitRun Char.isDigit digits with
        | some n => imaginary (length + 1 + signed + n) (digits.drop n)
        | none => .error "invalid decimal literal"
      -- An `e` without digits may be the start of the next word, such as `else`.
      else if signed = 1 then .error "invalid decimal literal"
      else closeNumber "decimal" length s
    else imaginary length s
  | [] => .ok length

/-- The length of the fraction and what follows it, behind a number of `length` characters. -/
def numberTail (length : Nat) (s : List Char) : Except String Nat :=
  match s with
  | '.' :: rest =>
    if rest.head?.any Char.isDigit then
      match digitRun Char.isDigit rest with
      | some n => numberEnd (length + 1 + n) (rest.drop n)
      | none => .error "invalid decimal literal"
    else numberEnd (length + 1) rest
  | s => numberEnd length s

/-- The length of the number that the text starts with. A decimal number has no zero in front, unless
it is zero or has a fraction. -/
def numberLength (s : List Char) : Except String Nat :=
  match s with
  | '0' :: c :: rest =>
    if c == 'x' || c == 'X' then
      prefixedNumber "hexadecimal" Text.isHexDigit rest
    else if c == 'o' || c == 'O' then prefixedNumber "octal" (fun d => '0' ≤ d && d ≤ '7') rest
    else if c == 'b' || c == 'B' then prefixedNumber "binary" (fun d => d == '0' || d == '1') rest
    else
      match digitRun Char.isDigit s with
      | none => .error "invalid decimal literal"
      | some n =>
        let isWhole := !((s.drop n).head?.any fun d => ['.', 'e', 'E', 'j', 'J'].contains d)
        if isWhole && (s.take n).any fun d => d != '0' && d != '_' then
          .error ("leading zeros in decimal integer literals are not permitted; " ++
            "use an 0o prefix for octal integers")
        else numberTail n (s.drop n)
  | '.' :: _ => numberTail 0 s
  | s =>
    match digitRun Char.isDigit s with
    | none => .error "invalid decimal literal"
    | some n => numberTail n (s.drop n)

/-! ### Texts -/

/-- The length of a text from behind its opening quotes to behind its closing ones; `none` if it is
not closed. -/
def textLength (mark : Char) (triple : Bool) : List Char → Option Nat
  | [] => none
  | '\\' :: _ :: rest => (textLength mark triple rest).map (· + 2)
  | c :: rest =>
    if c == mark then
      if !triple then some 1
      else if rest.take 2 = [mark, mark] then some 3
      else (textLength mark triple rest).map (· + 1)
    else if c == '\n' && !triple then none
    else (textLength mark triple rest).map (· + 1)

/-- The number of lines that end with a backslash, from here to the first line that does not. The end
of the source is no further line. -/
def joinedLines : List Char → Nat
  | '\\' :: '\n' :: rest => if rest.isEmpty then 0 else joinedLines rest + 1
  | '\\' :: _ :: rest => joinedLines rest
  | c :: rest => if c == '\n' then 0 else joinedLines rest
  | [] => 0

/-- The letters that may stand in front of a text. -/
def textPrefixes : List String := ["b", "u", "r", "f", "br", "rb", "fr", "rf"]

/-- The length of the text that the characters start with, if they do. A text that is not closed has
no length. -/
def quotedLength? (s : List Char) : Option (Bool × Option Nat) :=
  let letters := s.takeWhile Char.isAlpha
  match s.drop letters.length with
  | mark :: rest =>
    if (mark == '"' || mark == '\'') &&
        (letters.isEmpty || textPrefixes.contains (String.ofList (letters.map Char.toLower))) then
      let start := letters.length
      if rest.take 2 = [mark, mark] then
        some (true, (textLength mark true (rest.drop 2)).map (· + (start + 3)))
      else some (false, (textLength mark false rest).map (· + (start + 1)))
    else none
  | [] => none

/-! ### Signs -/

/-- The operators of more than one character, longer ones first. -/
def longSigns : List String :=
  ["**=", "//=", ">>=", "<<=", "...", "!=", "%=", "&=", "**", "*=", "+=", "-=", "->", "//", "/=",
   ":=", "<<", "<=", "<>", "==", ">=", ">>", "@=", "^=", "|="]

/-- The number of characters of the operator that the text starts with. -/
def signLength (s : List Char) : Nat :=
  match longSigns.find? fun sign => sign.toList.isPrefixOf s with
  | some sign => sign.length
  | none => 1

/-- The bracket that closes another one. -/
def closing? (c : Char) : Option Char :=
  match c with
  | '(' => some ')'
  | '[' => some ']'
  | '\x7b' => some '\x7d'
  | _ => none

/-- The brackets after one more was opened or closed. -/
def bracket (place : Place) (c : Char) : Except String (List (Char × Nat)) :=
  if (closing? c).isSome then
    if place.brackets.length < maxBrackets then .ok ((c, place.line) :: place.brackets)
    else .error "too many nested parentheses"
  else if [')', ']', '\x7d'].contains c then
    match place.brackets with
    | [] => .error ("unmatched '" ++ String.singleton c ++ "'")
    | (opened, line) :: rest =>
      if closing? opened = some c then .ok rest
      else
        .error ("closing parenthesis '" ++ String.singleton c ++
          "' does not match opening parenthesis '" ++ String.singleton opened ++ "'" ++
          if line = place.line then "" else " on line " ++ toString line)
  else .ok place.brackets

/-! ### Lines -/

/-- The margin before any blank. -/
def Margin.start : Margin :=
  ⟨(0, 0), none⟩

/-- The margin with more blanks. A form feed begins it anew. -/
def Margin.extend (margin : Margin) (blanks : List Char) : Margin :=
  { margin with
    width := blanks.foldl
      (fun (wide, narrow) c =>
        if c == '\t' then ((wide / 8 + 1) * 8, narrow + 1)
        else if c == ' ' then (wide + 1, narrow + 1)
        else (0, 0))
      margin.width }

/-- The margin behind a backslash that joins the line with the next one. -/
def Margin.join (margin : Margin) : Margin :=
  { margin with
    fixed := margin.fixed.or (if margin.width.1 = 0 then none else some margin.width.1) }

/-- The indentation that the margin is. -/
def Margin.indentation (margin : Margin) : Nat × Nat :=
  match margin.fixed with
  | some column => (column, column)
  | none => margin.width

/-- Leaves the indentations that are deeper than a width. -/
def leave (width : Nat) (indents : List (Nat × Nat)) : List (Nat × Nat) :=
  indents.dropWhile fun indent => width < indent.1

/-- The tokens for the indentation of a line, and the indentations in force after it. -/
def indentTokens (place : Place) (width : Nat × Nat) :
    Except Trouble (List Token × List (Nat × Nat)) :=
  let mixed := Trouble.quiet "inconsistent use of tabs and spaces in indentation"
  let top := place.indents.head?.getD (0, 0)
  if width.1 = top.1 then
    if width.2 = top.2 then .ok ([], place.indents) else .error mixed
  else if top.1 < width.1 then
    if maxIndents ≤ place.indents.length then .error (.quiet "too many levels of indentation")
    else if width.2 ≤ top.2 then .error mixed
    else .ok ([⟨.indent, "", place.line, 0⟩], width :: place.indents)
  else
    let left := leave width.1 place.indents
    let target := left.head?.getD (0, 0)
    if target.1 ≠ width.1 then .error (.quiet "unindent does not match any outer indentation level")
    else if target.2 ≠ width.2 then .error mixed
    else
      .ok (List.replicate (place.indents.length - left.length) ⟨.dedent, "", place.line, 0⟩, left)

/-- Blanks within a line. -/
def isGap (c : Char) : Bool :=
  c == ' ' || c == '\t' || c == '\x0c'

/-- The tokens at the end of the source. -/
def endTokens (place : Place) : List Token :=
  let line := place.line - 1
  List.replicate (place.indents.length - 1) ⟨.dedent, "", line, 0⟩ ++ [⟨.ending, "", line, 0⟩]

/-- A character with its number, as it is quoted in a complaint. -/
def numbered (c : Char) : String :=
  let digits := (Nat.toDigits 16 c.toNat).map Char.toUpper
  "U+" ++ String.ofList (List.replicate (4 - digits.length) '0' ++ digits)

/-- Why a character cannot stand in a name, if it cannot. -/
def strange? (word : String) : Option String :=
  if Text.isIdentifier word then none
  else
    let front := (List.range (word.length + 1)).find? fun n =>
      0 < n && !Text.isIdentifier (String.ofList (word.toList.take n))
    match front.bind fun n => word.toList[n - 1]? with
    | none => none
    | some c =>
      if Text.isPrintable c then
        some ("invalid character '" ++ String.singleton c ++ "' (" ++ numbered c ++ ")")
      else some ("invalid non-printable character " ++ numbered c)

/-- The fault for a trouble at a place. -/
def Place.ending (place : Place) : Trouble → Ending
  | .loud reason => .broken ⟨reason, place.line⟩
  | .quiet reason => .stuck ⟨reason, place.line⟩ place.brackets.head?
  | .cutOff =>
    match place.brackets with
    | opened :: _ => .stuck (.neverClosed opened) (some opened)
    | [] => .stuck ⟨"unexpected EOF while parsing", place.line⟩ none

/-- What the lexer makes of the characters that it stands at. -/
structure Step (s : List Char) where
  /-- The tokens. -/
  tokens : List Token
  /-- Where it stands then. -/
  next : Place
  /-- What is left. -/
  rest : Rest s

/-- The step over one token of a length, which is not zero. -/
def tokenStep (place : Place) (kind : Kind) (length : Nat) (c : Char) (r : List Char) :
    Step (c :: r) :=
  let read := c :: r.take (length - 1)
  ⟨[⟨kind, String.ofList read, place.line, place.brackets.length⟩],
    { place with line := place.line + read.count '\n' }, .dropSome (length - 1) c r⟩

/-- The step over an end of a line, which means nothing within brackets. -/
def lineStep (place : Place) (c : Char) (r : List Char) : Step (c :: r) :=
  let next := { place with line := place.line + 1 }
  if place.brackets.isEmpty then
    ⟨[⟨.newline, "", place.line, 0⟩], { next with margin := some .start }, .tail c r⟩
  else ⟨[], next, .tail c r⟩

/-- The step over an end of a line behind a backslash. -/
def joinStep (place : Place) (c : Char) (r : List Char) : Except Trouble (Step (c :: r)) :=
  if r.head? ≠ some '\n' then
    .error (.quiet "unexpected character after line continuation character")
  else if r.tail.isEmpty then .error .cutOff
  else .ok ⟨[], { place with line := place.line + 1 }, .dropSome 1 c r⟩

/-- The step over a name, a number or a sign. -/
def plainStep (place : Place) (c : Char) (r : List Char) : Except Trouble (Step (c :: r)) :=
  if c.isDigit || (c == '.' && r.head?.any Char.isDigit) then
    match numberLength (c :: r) with
    | .ok length =>
      let unit := ((c :: r)[length - 1]?).any fun d => d == 'j' || d == 'J'
      .ok (tokenStep place (if unit then .imaginary else .number) length c r)
    | .error reason => .error (.loud reason)
  else if isWordStart c then
    let word := String.ofList (c :: r.takeWhile isWordChar)
    match strange? word with
    | some reason => .error (.loud reason)
    | none => .ok (tokenStep place .word word.length c r)
  else if c.toNat < 0x20 || c.toNat = 0x7F then
    .error (.loud ("invalid non-printable character " ++ numbered c))
  else
    match bracket place c with
    | .error reason => .error (.loud reason)
    | .ok brackets => .ok (tokenStep { place with brackets } .sign (signLength (c :: r)) c r)

/-- The step at the characters `c :: r` within a line. -/
def readToken (place : Place) (c : Char) (r : List Char) : Except Trouble (Step (c :: r)) :=
  if isGap c then .ok ⟨[], place, .tail c r⟩
  else if c == '#' then .ok ⟨[], place, (Rest.tail c r).skip (· != '\n')⟩
  else if c == '\n' then .ok (lineStep place c r)
  else if c == '\\' then joinStep place c r
  else
    match quotedLength? (c :: r) with
    | some (_, some length) => .ok (tokenStep place .text length c r)
    | some (true, none) =>
      let last := place.line + (r.count '\n' - 1)
      .error (.loud ("unterminated triple-quoted string literal (detected at line " ++
        toString last ++ ")"))
    | some (false, none) =>
      let last := place.line + joinedLines r
      .error (.loud ("unterminated string literal (detected at line " ++ toString last ++ ")"))
    | none => plainStep place c r

/-- The step at the characters `c :: r` behind a margin, with the tokens before a trouble. A line of
blanks or of a comment alone counts for nothing. -/
def readLine (place : Place) (margin : Margin) (c : Char) (r : List Char) :
    Except (List Token × Trouble) (Step (c :: r)) :=
  if c == '\n' then
    .ok ⟨[], { place with line := place.line + 1, margin := some .start }, .tail c r⟩
  else if c == '#' then
    .ok ⟨[], { place with line := place.line + 1, margin := some .start },
      ((Rest.tail c r).skip (· != '\n')).skipOne⟩
  else if c == '\\' then
    match joinStep { place with margin := some margin.join } c r with
    | .error trouble => .error ([], trouble)
    | .ok step => .ok step
  else
    match indentTokens place margin.indentation with
    | .error trouble => .error ([], trouble)
    | .ok (tokens, indents) =>
      match readToken { place with indents, margin := none } c r with
      | .error trouble => .error (tokens, trouble)
      | .ok step => .ok { step with tokens := tokens ++ step.tokens }

/-- The tokens behind those that are `read`, the last one first, and how they end. -/
def tokensFrom (place : Place) (read : List Token) (s : List Char) : List Token × Ending :=
  let blanks := if place.margin.isSome then s.takeWhile isGap else []
  match h : s.drop blanks.length with
  | [] =>
    match place.brackets with
    | [] => (read.reverse ++ endTokens place, .complete)
    | opened :: _ => (read.reverse, .stuck (.neverClosed opened) (some opened))
  | c :: r =>
    let step := match place.margin with
      | some margin => readLine place (margin.extend blanks) c r
      | none => (readToken place c r).mapError fun trouble => ([], trouble)
    match step with
    | .error (tokens, trouble) => (read.reverse ++ tokens, place.ending trouble)
    | .ok step =>
      have : step.rest.chars.length < s.length := by
        have h1 := step.rest.shorter
        have h2 := (List.drop_suffix blanks.length s).length_le
        rw [h] at h2
        omega
      tokensFrom step.next (step.tokens.reverse ++ read) step.rest.chars
termination_by s.length

/-- The source with a line feed for each end of line, also behind the last line. -/
def wholeLines : List Char → List Char
  | [] => ['\n']
  | '\r' :: '\n' :: rest => if rest.isEmpty then ['\n'] else '\n' :: wholeLines rest
  | c :: rest =>
    let d := if c == '\r' then '\n' else c
    if rest.isEmpty then (if d == '\n' then [d] else [d, '\n']) else d :: wholeLines rest

/-- The tokens of a source that begins on a line, and how they end. -/
def tokens (line : Nat) (source : List Char) : List Token × Ending :=
  tokensFrom ⟨line, [], [(0, 0)], some .start⟩ [] (wholeLines source)

end SchemaPress.SourceCheck
