/-!
# Reserved words

The words that the languages of the generated sources keep for themselves.
-/

namespace SchemaPress.Keyword

/-- Words that may not name a TypeScript constant. -/
def typeScript : List String :=
  ["break", "case", "catch", "class", "const", "continue", "debugger", "default", "delete", "do",
   "else", "enum", "export", "extends", "false", "finally", "for", "function", "if", "import", "in",
   "instanceof", "new", "null", "return", "super", "switch", "this", "throw", "true", "try",
   "typeof", "var", "void", "while", "with", "let", "static", "yield", "await"]

/-- The keywords of Go. -/
def go : List String :=
  ["break", "case", "chan", "const", "continue", "default", "defer", "else", "fallthrough", "for",
   "func", "go", "goto", "if", "import", "interface", "map", "package", "range", "return", "select",
   "struct", "switch", "type", "var"]

/-- The keywords of Rust that can be used as raw identifiers, and `crate`. -/
def rust : List String :=
  ["as", "async", "await", "break", "const", "continue", "crate", "dyn", "else", "enum", "extern",
   "false", "fn", "for", "if", "impl", "in", "let", "loop", "match", "mod", "move", "mut", "pub",
   "ref", "return", "static", "struct", "trait", "true", "type", "unsafe", "use", "where", "while"]

/-- The keywords of Rust that stand for steps of a path: not even a raw identifier may be one. -/
def rustPath : List String :=
  ["self", "super", "crate", "Self"]

/-- The keywords of Python. -/
def python : List String :=
  ["False", "None", "True", "and", "as", "assert", "async", "await", "break", "class", "continue",
   "def", "del", "elif", "else", "except", "finally", "for", "from", "global", "if", "import", "in",
   "is", "lambda", "nonlocal", "not", "or", "pass", "raise", "return", "try", "while", "with",
   "yield"]

/-- Type names that would clash with a keyword or with a name that the generated sources import or
use unqualified. -/
def typeNames : List String :=
  ["None", "True", "False", "Self", "Any", "Dict", "List", "Union", "TypedDict", "NotRequired",
   "Enum", "Option", "Box", "Vec", "String", "Serialize", "Deserialize"]

end SchemaPress.Keyword
