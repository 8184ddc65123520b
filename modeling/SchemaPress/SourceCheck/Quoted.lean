import SchemaPress.SourceCheck.Pattern
import SchemaPress.Text.Basic
import SchemaPress.Text.CharacterName
import SchemaPress.Text.Literal

/-!
# What stands between quotes

Texts have escapes; formatted ones have expressions in braces, which are sources of their own. Texts
in a row are one text, so they cannot be mixed with bytes.
-/

namespace SchemaPress.SourceCheck

/-- A text or bytes in quotes. -/
structure Quoted where
  /-- The letters in front of the quotes, in lower case. -/
  letters : List Char
  /-- The letters and the quotes in front. -/
  opening : List Char
  /-- What stands between the quotes. -/
  body : List Char

namespace Quoted

/-- The text that a token writes. -/
def ofToken (token : Token) : Quoted :=
  let written := token.text.toList
  let letters := written.takeWhile Char.isAlpha
  let quoted := written.drop letters.length
  let marks := if quoted.take 3 = List.replicate 3 (quoted.headD '"') && 6 ≤ quoted.length then 3
    else 1
  { letters := letters.map Char.toLower
    opening := letters ++ quoted.take marks
    body := (quoted.drop marks).take (quoted.length - 2 * marks) }

/-- Whether it is bytes. -/
def isBytes (quoted : Quoted) : Bool :=
  quoted.letters.contains 'b'

/-- Whether backslashes mean themselves. -/
def isRaw (quoted : Quoted) : Bool :=
  quoted.letters.contains 'r'

/-- Whether it has expressions in braces. -/
def isFormatted (quoted : Quoted) : Bool :=
  quoted.letters.contains 'f'

end Quoted

/-! ### Escapes -/

/-- The digits that an escape of a number needs, by its letter. -/
def escapeDigits? (c : Char) : Option Nat :=
  if c == 'x' then some 2 else if c == 'u' then some 4 else if c == 'U' then some 8 else none

/-- The fault of an escape of `length` characters. -/
def escapeFault (position length : Nat) (reason : String) : String :=
  "(unicode error) 'unicodeescape' codec can't decode bytes in position " ++ toString position ++
    "-" ++ toString (position + length - 1) ++ ": " ++ reason

/-- The fault of an escape with the letter `N` in front of `rest`: behind it stands the name of a
character in braces. -/
def nameFault? (position : Nat) (rest : List Char) : Option String :=
  match rest with
  | '\x7b' :: named =>
    let name := named.takeWhile (· != '\x7d')
    if name.isEmpty || name.length = named.length then
      some (escapeFault position (3 + name.length) "malformed \\N character escape")
    else if Text.isCharacterName name then none
    else some (escapeFault position (4 + name.length) "unknown Unicode character name")
  | _ => some (escapeFault position 2 "malformed \\N character escape")

/-- The fault of the escape with the letter `c`, in front of `rest`. -/
def escapeFault? (position : Nat) (c : Char) (rest : List Char) : Option String :=
  match escapeDigits? c with
  | some digits =>
    let valid := ((rest.take digits).takeWhile Text.isHexDigit).length
    if valid < digits then
      some (escapeFault position (2 + valid)
        ("truncated \\" ++ String.ofList (c :: List.replicate digits 'X') ++ " escape"))
    else if 0x10FFFF < (Text.hexNumber? (rest.take digits)).getD 0 then
      some (escapeFault position (2 + valid) "illegal Unicode character")
    else none
  | none => if c == 'N' then nameFault? position rest else none

/-- The first fault of the escapes of a text that is ASCII. -/
def asciiFault? (position : Nat) : List Char → Option String
  | '\\' :: c :: rest =>
    (escapeFault? position c rest).or (asciiFault? (position + 2) rest)
  | _ :: rest => asciiFault? (position + 1) rest
  | [] => none

/-- The text with an escape for each character beyond ASCII, and one for each backslash in front of such
a character or of the end. -/
def inAscii : List Char → List Char
  | '\\' :: c :: rest =>
    if c.toNat < 0x80 then '\\' :: c :: inAscii rest
    else ['\\', 'u', '0', '0', '5', 'c'] ++ ('\\' :: 'U' :: Text.hexDigits 8 c.toNat) ++ inAscii rest
  | c :: rest =>
    if c == '\\' then ['\\', 'u', '0', '0', '5', 'c'] ++ inAscii rest
    else if c.toNat < 0x80 then c :: inAscii rest
    else '\\' :: 'U' :: Text.hexDigits 8 c.toNat ++ inAscii rest
  | [] => []

/-- The first fault of the escapes of a text. -/
def textFault? (text : List Char) : Option String :=
  if text.contains '\\' then asciiFault? 0 (inAscii text) else none

/-- The first fault of the escapes of bytes. -/
def bytesFault? (position : Nat) : List Char → Option String
  | '\\' :: 'x' :: rest =>
    if ((rest.take 2).takeWhile Text.isHexDigit).length = 2 then bytesFault? (position + 2) rest
    else some ("(value error) invalid \\x escape at position " ++ toString position)
  | '\\' :: _ :: rest => bytesFault? (position + 2) rest
  | _ :: rest => bytesFault? (position + 1) rest
  | [] => none

/-! ### Expressions in braces -/

/-- Where a scan of an expression in braces stands. -/
structure Scan where
  /-- The characters that belong to what went before. -/
  skip : Nat
  /-- The quote of the text that it is in, and whether that has three of them. -/
  quote : Option (Char × Bool)
  /-- The open brackets. -/
  brackets : List Char
  /-- What was read, the last character first. -/
  read : List Char

/-- Whether the two characters are a comparison, which does not end an expression. -/
def isComparison (c : Char) (rest : List Char) : Bool :=
  ['!', '=', '<', '>'].contains c && rest.head? = some '='

/-- The expression that the characters start with, and what follows it. -/
def scanExpression (scan : Scan) : List Char → Except String (List Char × List Char)
  | [] =>
    if scan.quote.isSome then .error "f-string: unterminated string"
    else
      match scan.brackets with
      | opened :: _ => .error ("f-string: unmatched '" ++ String.singleton opened ++ "'")
      | [] => .ok (scan.read.reverse, [])
  | c :: rest =>
    let next := { scan with read := c :: scan.read, skip := scan.skip - 1 }
    let tripled := rest.take 2 = [c, c]
    if c == '\\' then .error "f-string expression part cannot include a backslash"
    -- The second and third quote of three, and the second sign of a comparison.
    else if 0 < scan.skip then scanExpression next rest
    else
      match scan.quote with
      | some (mark, triple) =>
        if c == mark && (!triple || tripled) then
          scanExpression { next with quote := none, skip := if triple then 2 else 0 } rest
        else scanExpression next rest
      | none =>
        if c == '"' || c == '\'' then
          scanExpression
            { next with quote := some (c, tripled), skip := if tripled then 2 else 0 } rest
        else if ['[', '\x7b', '('].contains c then
          if 200 ≤ scan.brackets.length then .error "f-string: too many nested parenthesis"
          else scanExpression { next with brackets := c :: scan.brackets } rest
        else if c == '#' then .error "f-string expression part cannot include '#'"
        -- Outside brackets `!`, `:` and `=` end the expression, but not as part of a comparison.
        else if scan.brackets.isEmpty && isComparison c rest then
          scanExpression { next with skip := 1 } rest
        else if scan.brackets.isEmpty && ['!', ':', '\x7d', '='].contains c then
          .ok (scan.read.reverse, c :: rest)
        else if [']', '\x7d', ')'].contains c then
          match scan.brackets with
          | [] => .error ("f-string: unmatched '" ++ String.singleton c ++ "'")
          | opened :: outer =>
            if (opened, c) = ('(', ')') || (opened, c) = ('[', ']') ||
                (opened, c) = ('\x7b', '\x7d') then
              scanExpression { next with brackets := outer } rest
            else
              .error ("f-string: closing parenthesis '" ++ String.singleton c ++
                "' does not match opening parenthesis '" ++ String.singleton opened ++ "'")
        else scanExpression next rest

/-- The number of characters behind a backslash that belong to it, where a text has expressions in
braces. The braces of a named character are none of those. -/
def escapeLength (rest : List Char) : Nat :=
  match rest with
  | 'N' :: '\x7b' :: name => 2 + min name.length ((name.takeWhile (· != '\x7d')).length + 1)
  | 'N' :: _ => 2
  | c :: _ => if c == '\x7b' || c == '\x7d' then 0 else 1
  | [] => 0

/-- The text up to the next expression or the end, and what follows it. The last component tells
whether a doubled brace ended the text, so that more text follows. Only the outermost text may hold
doubled braces. The next `skip` characters belong to an escape. -/
def literalPart (raw outermost : Bool) (skip : Nat) (read : List Char) :
    List Char → Except String (List Char × List Char × Bool)
  | [] => .ok (read.reverse, [], false)
  | c :: rest =>
    if 0 < skip then literalPart raw outermost (skip - 1) (c :: read) rest
    else if c == '\\' && !raw then
      literalPart raw outermost (escapeLength rest) (c :: read) rest
    else if c == '\x7b' || c == '\x7d' then
      if outermost && rest.head? = some c then .ok ((c :: read).reverse, rest.tail, true)
      else if outermost && c == '\x7d' then .error "f-string: single '\x7d' is not allowed"
      else .ok (read.reverse, c :: rest, false)
    else literalPart raw outermost 0 (c :: read) rest

/-- What the reading of a formatted text is given. -/
structure Formatted where
  /-- Whether backslashes mean themselves. -/
  raw : Bool
  /-- The line that was reached around the text. -/
  reached : Nat
  /-- The fault of an expression in braces, which begins on a line. -/
  faultIn : List Char → Nat → Option Fault

/-- A fault of the text itself. -/
def Formatted.fault (formatted : Formatted) (reason : String) : Halt :=
  .fault ⟨reason, formatted.reached⟩

/-- Checks an expression in braces, in front of `rest`. -/
def Formatted.checkExpression (formatted : Formatted) (line : Nat) (expression rest : List Char) :
    Except Halt Unit :=
  if expression.all fun c => [' ', '\t', '\n', '\x0c'].contains c then
    match rest.head? with
    | some '\x7d' => .error (formatted.fault "f-string: empty expression not allowed")
    | some c =>
      .error (formatted.fault
        ("f-string: expression required before '" ++ String.singleton c ++ "'"))
    | none => .error (formatted.fault "f-string: expecting '\x7d'")
  else
    match formatted.faultIn ('(' :: expression ++ [')']) line with
    | some fault => .error (.within fault)
    | none => .ok ()

/-- What follows the sign for a self-documenting expression and the conversion, if they are there. -/
def Formatted.skipConversion (formatted : Formatted) (s : List Char) : Except Halt (List Char) :=
  let s := match s with
    | '=' :: rest => rest.dropWhile fun c => c == ' ' || (9 ≤ c.toNat && c.toNat ≤ 13)
    | s => s
  match s with
  | ['!'] => .error (formatted.fault "f-string: expecting '\x7d'")
  | '!' :: c :: rest =>
    if ['s', 'r', 'a'].contains c then .ok rest
    else
      .error (formatted.fault
        "f-string: invalid conversion character: expected 's', 'r', or 'a'")
  | s => .ok s

/-- The number of lines that end within the characters. -/
def lineEnds (s : List Char) : Nat :=
  s.count '\n'

/-- Checks a formatted text up to its end, or up to the brace that ends a format, and gives what
follows. A format may have expressions of its own, but theirs may have none. -/
def Formatted.check (formatted : Formatted) :
    Nat → Nat → Nat → List Char → Except Halt (List Char × Nat)
  | 0, _, line, s => .ok (s, line)
  | fuel + 1, level, line, s => do
    let (text, rest, more) ←
      (literalPart formatted.raw (level = 0) 0 [] s).mapError formatted.fault
    if !formatted.raw then
      if let some reason := textFault? text then throw (formatted.fault reason)
    let line := line + lineEnds text
    if more then formatted.check fuel level line rest
    else
      match rest with
      | '\x7b' :: inside =>
        -- Level 0 is the text, level 1 a format, and its expressions have no formats of their own.
        if 2 ≤ level then throw (formatted.fault "f-string: expressions nested too deeply")
        let (expression, rest) ←
          (scanExpression ⟨0, none, [], []⟩ inside).mapError formatted.fault
        if rest.isEmpty then throw (formatted.fault "f-string: expecting '\x7d'")
        formatted.checkExpression line expression rest
        let rest ← formatted.skipConversion rest
        let line := line + lineEnds expression
        let (rest, line) ← match rest with
          | ':' :: format => formatted.check fuel (level + 1) line format
          | rest => pure (rest, line)
        match rest with
        | '\x7d' :: rest => formatted.check fuel level line rest
        | _ => throw (formatted.fault "f-string: expecting '\x7d'")
      | rest => return (rest, line)

/-! ### Texts in a row -/

/-- Checks the escapes of a single text, and that bytes are ASCII. -/
def Quoted.checkPlain (quoted : Quoted) (reached : Nat) : Except Halt Unit :=
  let fault (reason : String) : Except Halt Unit := .error (.fault ⟨reason, reached⟩)
  let fault? :=
    if quoted.isFormatted || quoted.isRaw then none
    else if quoted.isBytes then bytesFault? 0 quoted.body
    else textFault? quoted.body
  if quoted.isBytes && quoted.body.any fun c => 0x80 ≤ c.toNat then
    fault "bytes can only contain ASCII literal characters"
  else
    match fault? with
    | some reason => fault reason
    | none => .ok ()

/-- Checks the expressions of a formatted text. -/
def Quoted.checkFormatted (quoted : Quoted) (faultIn : List Char → Nat → Option Fault)
    (line reached : Nat) : Except Halt Unit :=
  if quoted.isFormatted then do
    let formatted : Formatted := ⟨quoted.isRaw, reached, faultIn⟩
    let _ ← formatted.check (quoted.body.length + 1) 0 (line + lineEnds quoted.opening) quoted.body
    return ()
  else .ok ()

/-- Checks texts in a row, and says what they are called together. `faultIn` finds the fault of an
expression in braces. -/
def callTexts (faultIn : List Char → Nat → Option Fault) (texts : List Token) (reached : Nat) :
    Except Halt String := do
  let bytes := (texts.head?.map fun token => (Quoted.ofToken token).isBytes).getD false
  for token in texts do
    let quoted := Quoted.ofToken token
    quoted.checkPlain reached
    if quoted.isBytes ≠ bytes then
      throw (.fault ⟨"cannot mix bytes and nonbytes literals", reached⟩)
    quoted.checkFormatted faultIn token.line reached
  return if texts.any fun token => (Quoted.ofToken token).isFormatted then "f-string expression"
    else "literal"

end SchemaPress.SourceCheck
