import SchemaPress.Declaration.Basic
import SchemaPress.Name

/-!
# Target languages and source texts

Every target language renders a catalog the same way: a header, then each declaration as a block of
lines, with a blank line between two blocks. A block is built line by line; a line may be several
lines long when a name in it has a line break.
-/

namespace SchemaPress

/-- A language that declarations are generated in. -/
inductive Language where
  | typeScript
  | go
  | rust
  | python
deriving DecidableEq, Repr

namespace Language

/-- All languages, in the order in which their artifacts are generated. -/
def all : List Language := [.typeScript, .go, .rust, .python]

/-- The name of the language in configurations, which is also the extension of its files. -/
def key : Language → String
  | .typeScript => "ts"
  | .go => "go"
  | .rust => "rs"
  | .python => "py"

/-- The language of a name. -/
def ofKey? (key : String) : Option Language :=
  all.find? fun language => language.key == key

end Language

namespace Source

/-- The first line of every generated source, behind the mark of a comment. -/
def notice : String := "Code generated by json_schema_release. DO NOT EDIT."

/-- The blocks with a blank line between each two, and a line break at the end. -/
def assemble (blocks : List (List String)) : String :=
  "\n\n".intercalate ((blocks.filter (! ·.isEmpty)).map ("\n".intercalate ·)) ++ "\n"

/-- The lines, if the text that they show says anything. -/
def linesIf (shown : String) (lines : List String) : List String :=
  if shown.isEmpty then [] else lines

/-- The text of a name inside a word-based name: a text itself, nothing for a scalar that says
nothing. Any other scalar has no words. -/
def wordsSource : PropertyName → Except Crash String
  | .text name => .ok name
  | .scalar value => if value.isTruthy then .error .wrongKind else .ok ""

/-- A name that has to be a text. -/
def textName : PropertyName → Except Crash String
  | .text name => .ok name
  | .scalar _ => .error .wrongKind

/-- Whether all values are texts, and which. -/
def texts? (values : List Json) : Option (List String) :=
  values.mapM Json.str?

end Source

end SchemaPress
