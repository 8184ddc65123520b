import SchemaPress.Shell.Command

/-!
# The text of a script

A script is read from its front, character by character. A backslash at the end of a line joins the
line with the next one, except in places that ask for the plain characters. What was read ahead, the
documents that a line has announced, and the documents read so far are kept beside the rest of the
text.
-/

namespace SchemaPress.Shell

/-- A token of a script. -/
inductive Token where
  /-- A word. -/
  | word (word : Word)
  /-- A word that has a meaning of its own where it stands. -/
  | keyword (text : String)
  /-- A sign such as a semicolon or a bar. -/
  | sign (text : String)
  /-- The end of a line. -/
  | newline
  /-- The end of the script. -/
  | finish
  /-- A sign of redirection. A document has no number yet. -/
  | redirection (channel : Nat) (direction : Direction)
  /-- The sign in front of the last line of a document, whose tabs may be left out. -/
  | document (channel : Nat) (tabless : Bool)

/-- A document that was announced but not reached yet. -/
structure Awaited where
  /-- Its number. -/
  number : Nat
  /-- Its last line. -/
  lastLine : List Char
  /-- Whether it is taken as it is written. -/
  plain : Bool
  /-- Whether the tabs in front of its lines are left out. -/
  tabless : Bool

/-- An alias whose text was put in front of a script. -/
structure Expanding where
  /-- The name of the alias. -/
  name : String
  /-- The number of characters behind its text. -/
  behind : Nat
  /-- Whether the next word behind it may be an alias, too. -/
  goesOn : Bool

/-- The rest of a script. -/
structure Source where
  /-- The characters that are not read yet. -/
  chars : List Char
  /-- The number of the line that they are on. -/
  line : Nat := 1
  /-- A token that was read ahead. -/
  ahead : Option Token := none
  /-- The documents that have been announced, the last one first. -/
  awaited : List Awaited := []
  /-- The documents read so far. -/
  documents : List (Nat × Word) := []
  /-- The number of the next document. -/
  nextDocument : Nat := 0
  /-- The aliases with their texts. -/
  aliases : List (String × String) := []
  /-- The aliases that have been replaced, the last one first. -/
  expanding : List Expanding := []

/-- Why a script cannot be read. -/
structure Misreading where
  /-- The line where it becomes clear. -/
  line : Nat
  /-- What is wrong. -/
  reason : String

/-- A reader of scripts. -/
abbrev Reader (α : Type) : Type := StateT Source (Except Misreading) α

/-- The name of a token in a complaint. -/
def Token.title : Token → String
  | .word _ => "word"
  | .keyword text => "\"" ++ text ++ "\""
  | .sign text => "\"" ++ text ++ "\""
  | .newline => "newline"
  | .finish => "end of file"
  | .redirection _ _ => "redirection"
  | .document _ _ => "redirection"

/-- The words that have a meaning of their own. -/
def keywords : List String :=
  ["!", "case", "do", "done", "elif", "else", "esac", "fi", "for", "if", "in", "then", "until",
   "while", "\x7b", "\x7d"]

/-- The tokens that end a list of commands. -/
def Token.endsList : Token → Bool
  | .finish => true
  | .sign text => text == ")" || text == ";;"
  | .keyword text =>
    ["do", "done", "elif", "else", "esac", "fi", "then", "\x7d"].contains text
  | _ => false

/-- A word with a meaning of its own is told apart from other words. -/
def Token.classify : Token → Token
  | .word pieces =>
    match bare? pieces with
    | some chars =>
      if keywords.contains (String.ofList chars) then .keyword (String.ofList chars)
      else .word pieces
    | none => .word pieces
  | other => other

namespace Reader

/-- Ends the reading with a complaint. -/
def fail {α : Type} (reason : String) : Reader α := do
  throw ⟨(← get).line, reason⟩

/-- Complains about a token that does not belong where it is. -/
def unexpected {α : Type} (token : Token) : Reader α :=
  fail (token.title ++ " unexpected")

/-- Complains about a token in place of another one. -/
def expected {α : Type} (token other : Token) : Reader α :=
  fail (token.title ++ " unexpected (expecting " ++ other.title ++ ")")

/-- The characters from the next line on that is not joined with the one before it, and the number of
lines joined. -/
def skipJoins : List Char → Nat × List Char
  | '\\' :: '\n' :: rest =>
    let (joined, rest) := skipJoins rest
    (joined + 1, rest)
  | chars => (0, chars)

/-- Joins lines at the front of the text. -/
def joinLines : Reader Unit :=
  modify fun source =>
    let (joined, chars) := skipJoins source.chars
    { source with chars, line := source.line + joined }

/-- The next character, not taken. -/
def peek : Reader (Option Char) := do
  joinLines
  return (← get).chars.head?

/-- Takes the next character as it is written. -/
def takeRaw : Reader (Option Char) := do
  let source ← get
  match source.chars with
  | [] => return none
  | c :: chars =>
    set { source with chars, line := if c == '\n' then source.line + 1 else source.line }
    return some c

/-- Takes the next character. -/
def take : Reader (Option Char) := do
  joinLines
  takeRaw

/-- Takes the next character if it is the given one. -/
def takeIf (c : Char) : Reader Bool := do
  if (← peek) == some c then
    discard take
    return true
  else return false

/-- Takes characters as long as they pass a test. -/
def takeWhile (test : Char → Bool) : Nat → Reader (List Char)
  | 0 => return []
  | fuel + 1 => do
    match ← peek with
    | some c =>
      if test c then
        discard take
        return c :: (← takeWhile test fuel)
      else return []
    | none => return []

/-- Gives a token back. -/
def giveBack (token : Token) : Reader Unit :=
  modify fun source => { source with ahead := some token }

/-- The text of an alias that a word is. The text of an alias is not replaced within itself. -/
def aliasText? (word : Word) : Reader (Option (String × String)) := do
  let source ← get
  let inUse (name : String) : Bool := source.expanding.any fun entry =>
    entry.name == name && entry.behind ≤ source.chars.length
  return (bare? word).bind fun chars =>
    let name := String.ofList chars
    if inUse name then none else (source.aliases.lookup name).map (name, ·)

/-- Puts the text of an alias in front of the script. -/
def putAlias (name text : String) : Reader Unit :=
  modify fun source => { source with
    chars := text.toList ++ source.chars
    expanding := ⟨name, source.chars.length, text.endsWith " " || text.endsWith "\t"⟩ ::
      source.expanding }

/-- Whether a word that was read from `before` characters on follows an alias that lets the next word
be an alias. -/
def followsAlias (before : Nat) : Reader Bool := do
  let source ← get
  return source.expanding.any fun entry =>
    entry.goesOn && entry.behind < before && source.chars.length ≤ entry.behind

/-- A bound for the number of steps that reading the rest of the script takes. -/
def patience : Reader Nat := do
  return (← get).chars.length + 1

end Reader

end SchemaPress.Shell
