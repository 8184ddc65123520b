/-!
# Tokens of a source text

What a source text is made of, and the faults that are found in it.
-/

namespace SchemaPress.SourceCheck

/-- The kind of a token. -/
inductive Kind where
  /-- A word: a name or a keyword. -/
  | word
  | number
  /-- A number of imaginary units. -/
  | imaginary
  /-- A text or bytes in quotes. -/
  | text
  /-- An operator or a bracket. -/
  | sign
  /-- The end of a line with statements. -/
  | newline
  | indent
  | dedent
  /-- The end of the source. -/
  | ending
deriving DecidableEq, Repr

/-- A token and where it stands. -/
structure Token where
  /-- What it is. -/
  kind : Kind
  /-- How it is written. -/
  text : String
  /-- The line it starts on, counted from one. -/
  line : Nat
  /-- The number of brackets that are open behind it. -/
  depth : Nat
deriving DecidableEq, Repr

/-- What is wrong, and on which line. -/
structure Fault where
  /-- What is wrong. -/
  reason : String
  /-- The line. -/
  line : Nat
deriving DecidableEq, Repr

/-- The fault in words. -/
def Fault.message (fault : Fault) : String :=
  fault.reason ++ " (<unknown>, line " ++ toString fault.line ++ ")"

/-- Why no token can be read. -/
inductive Trouble where
  /-- A fault that counts wherever the source is read. -/
  | loud (reason : String)
  /-- A fault that counts only for a reader that comes to it. -/
  | quiet (reason : String)
  /-- The source ends too early. -/
  | cutOff
deriving DecidableEq, Repr

/-- How the tokens of a source end. -/
inductive Ending where
  /-- With the end of the source. -/
  | complete
  /-- With a fault that counts for every reader. -/
  | broken (fault : Fault)
  /-- With a fault that counts for a reader that comes to it. The innermost open bracket, with its line,
  counts for readers that stop below it. -/
  | stuck (fault : Fault) (bracket : Option (Char × Nat))
deriving DecidableEq, Repr

/-- The fault of a bracket that is not closed. -/
def Fault.neverClosed (bracket : Char × Nat) : Fault :=
  ⟨"'" ++ String.singleton bracket.1 ++ "' was never closed", bracket.2⟩

end SchemaPress.SourceCheck
