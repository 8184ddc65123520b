/-!
# Control sequences for a terminal

Text may carry sequences that tell a terminal to change its colours or to move its cursor. Where the
output is not shown by a terminal they are left out, and only the text between them is printed.
-/

namespace SchemaPress.Text

/-- Whether the code of a character lies between two codes, both included. -/
def isBetween (low high : Nat) (c : Char) : Bool :=
  decide (low ≤ c.toNat) && decide (c.toNat ≤ high)

/-- The number of characters in the control sequence at the front of a text; none if there is no
such sequence. It opens with an escape character and a bracket and ends with a final character;
between them stand parameters and then intermediate characters. -/
def controlSequenceLength : List Char → Nat
  | '\x1b' :: '[' :: rest =>
    let parameters := rest.takeWhile (isBetween 0x30 0x3F)
    let others := (rest.drop parameters.length).takeWhile (isBetween 0x20 0x2F)
    let inner := parameters.length + others.length
    match rest.drop inner with
    | c :: _ => if isBetween 0x40 0x7E c then inner + 3 else 0
    | [] => 0
  | _ => 0

/-- A text without the first `skipped` characters and without the control sequences in the rest. -/
def dropControlSequences (skipped : Nat) : List Char → List Char
  | [] => []
  | c :: rest =>
    match skipped with
    | n + 1 => dropControlSequences n rest
    | 0 =>
      match controlSequenceLength (c :: rest) with
      | 0 => c :: dropControlSequences 0 rest
      | n + 1 => dropControlSequences n rest

/-- A text in which every line ends with a line feed alone. A carriage return that no line feed
follows stays. -/
def joinLineEnds : List Char → List Char
  | '\r' :: '\n' :: rest => '\n' :: joinLineEnds rest
  | c :: rest => c :: joinLineEnds rest
  | [] => []

/-- A text as it is printed where no terminal shows it. -/
def printed (text : String) : String :=
  String.ofList (joinLineEnds (dropControlSequences 0 text.toList))

end SchemaPress.Text
