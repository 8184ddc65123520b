/-!
# Commands of the shell

A script is read into a `Command`. Its words are kept as they are written, as lists of pieces, because
what they stand for is known only when the command is run: parameters have values by then, and a word
may fall into several arguments or into none.

All text of the shell is made of bytes, and a byte is kept as the character of its number.
-/

namespace SchemaPress.Shell

/-- What is asked of a parameter. In `orElse` and its like, `filled` asks that an empty value counts as
no value. -/
inductive Use where
  /-- Its value. -/
  | value
  /-- The number of bytes of its value. -/
  | size
  /-- Its value, or else the word. -/
  | orElse (filled : Bool)
  /-- Its value, or else the word, which it is set to. -/
  | orAssign (filled : Bool)
  /-- Its value, or else the script ends with the word as the complaint. -/
  | orFail (filled : Bool)
  /-- The word if it has a value. -/
  | andThen (filled : Bool)
  /-- Its value without a beginning or an end that the word is a pattern of. -/
  | trim (atEnd longest : Bool)
  /-- Nothing that can be asked. -/
  | unknown
deriving DecidableEq, Repr

/-- How a file or another channel is put in place of a channel of a command. -/
inductive Direction where
  /-- Read a file. -/
  | read
  /-- Write a file from its start; `forced` overrules the option that keeps files. -/
  | write (forced : Bool)
  /-- Write at the end of a file. -/
  | append
  /-- Read and write a file. -/
  | readWrite
  /-- Use the channel of another number. -/
  | share
  /-- Read the document of this number, which stands in the script. -/
  | document (number : Nat)
deriving DecidableEq, Repr

mutual

/-- A piece of a word. -/
inductive Piece where
  /-- A character. One that is quoted has no meaning of its own. -/
  | char (c : Char) (quoted : Bool)
  /-- A pair of quotes, which makes a word even of nothing. -/
  | quotes
  /-- A parameter. -/
  | parameter (name : String) (use : Use) (word : List Piece) (quoted : Bool)
  /-- The output of a command. -/
  | output (command : Command) (quoted : Bool)
  /-- The value of a sum. -/
  | sum (word : List Piece) (quoted : Bool)

/-- A redirection. -/
inductive Redirection where
  /-- What is done with the word to replace the channel of this number. -/
  | of (channel : Nat) (direction : Direction) (word : List Piece)

/-- A branch of a choice. -/
inductive Branch where
  /-- What is done where one of the patterns fits. -/
  | of (patterns : List (List Piece)) (body : Command)

/-- A command. The line numbers are those that complaints quote. -/
inductive Command where
  /-- Nothing to do. -/
  | nothing
  /-- A program, a function or a command of the shell with its arguments. -/
  | simple (line : Nat) (assignments : List (String × List Piece)) (words : List (List Piece))
      (redirections : List Redirection)
  /-- Commands each of which reads what the one before it writes. -/
  | pipe (commands : List Command)
  /-- Success where the command fails. -/
  | negation (command : Command)
  /-- The second command if the first one succeeds. -/
  | both (first second : Command)
  /-- The second command if the first one fails. -/
  | either (first second : Command)
  /-- One command after the other. -/
  | sequence (first second : Command)
  /-- A command that is not waited for. -/
  | background (command : Command)
  /-- A command with its channels redirected. -/
  | redirected (line : Nat) (command : Command) (redirections : List Redirection)
  /-- A command that leaves the shell as it was. -/
  | subshell (line : Nat) (command : Command) (redirections : List Redirection)
  /-- One of two commands. -/
  | conditional (test whenTrue whenFalse : Command)
  /-- A command again and again, while or until a test succeeds. -/
  | loop (negated : Bool) (test body : Command)
  /-- A command for each word; for each argument if there is no list of words. -/
  | each (line : Nat) (name : String) (words : Option (List (List Piece))) (body : Command)
  /-- The command behind the first pattern that the word fits. -/
  | choice (line : Nat) (subject : List Piece) (branches : List Branch)
  /-- A definition. -/
  | function (name : String) (body : Command)

end

/-- A word. -/
abbrev Word := List Piece

/-- The characters of a word if it is written without quotes and parameters. -/
def bare? : Word → Option (List Char)
  | [] => some []
  | .char c false :: rest => (bare? rest).map (c :: ·)
  | _ => none

/-- A character that a name may start with. -/
def isNameStart (c : Char) : Bool :=
  c.isAlpha || c == '_'

/-- A character of a name. -/
def isNameChar (c : Char) : Bool :=
  c.isAlphanum || c == '_'

/-- Whether a text is the name of a variable. -/
def isName : List Char → Bool
  | [] => false
  | c :: rest => isNameStart c && rest.all isNameChar

/-- Names of parameters that are one character long. -/
def isSpecialName (c : Char) : Bool :=
  c.isDigit || ['@', '*', '#', '?', '-', '$', '!'].contains c

end SchemaPress.Shell
