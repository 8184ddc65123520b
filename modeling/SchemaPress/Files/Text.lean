import SchemaPress.Files.Walk
import SchemaPress.Json.Parser

/-!
# Text files

Text is stored as UTF-8. Reading takes each end of line, however it is marked, for a line feed. Where
the text should be JSON and is not, that is a crash unless the reader foresees it.
-/

namespace SchemaPress

/-- A text with a line feed for each end of line. -/
def unifyLines : List Char → List Char
  | [] => []
  | '\r' :: '\n' :: rest => '\n' :: unifyLines rest
  | '\r' :: rest => '\n' :: unifyLines rest
  | c :: rest => c :: unifyLines rest

namespace Tree

/-- The bytes of the file that a path leads to. -/
def readBytes (tree : Tree) (path : Path) : Except FileFailure ByteArray := do
  match ← tree.find path with
  | (_, .file bytes) => return bytes
  | (_, .unreadable _) => throw (.refused .denied path.text)
  | (_, _) => throw (.refused .isDirectory path.text)

/-- The text of the file that a path leads to. -/
def readText (tree : Tree) (path : Path) : Except FileFailure String := do
  match String.fromUTF8? (← tree.readBytes path) with
  | some text => return String.ofList (unifyLines text.toList)
  | none => throw (.crash .badEncoding)

end Tree

/-- The crash that a misreading is where nothing reports it. -/
def Json.Misreading.toCrash : Json.Misreading → Crash
  | .malformed _ => .badJson
  | .tooLong => .badValue
  | .halfPair => .halfPair

end SchemaPress
