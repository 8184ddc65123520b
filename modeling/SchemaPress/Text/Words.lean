/-!
# Words in names

Every generated name is built from the ASCII words of a title, a property name or an enum value. A
word is a run of digits, a run of capitals, or a run of lower-case letters that may open with one
capital. A capital in front of a lower-case letter belongs to the word that the letter is in, so
`XMLHttp2` falls into `XML`, `Http` and `2`.

Words are found from the right: a character in front of a word either joins it or starts a word of
its own, and which of the two depends on the first two characters of that word alone
(`joinsWord`).
-/

namespace SchemaPress.Text

/-- Whether `c` in front of a word belongs to that word. -/
def joinsWord (c : Char) : List Char → Bool
  | [] => false
  | d :: rest =>
    if c.isDigit then d.isDigit
    else if c.isLower then d.isLower
    else d.isLower || (d.isUpper && !(rest.head?.any Char.isLower))

/-- A text cut into words: the word that starts at its first character, empty when none does, and
the words after that one. -/
structure WordCut where
  /-- The word that starts at the first character. -/
  current : List Char
  /-- The words that start later. -/
  later : List (List Char)

/-- All words of a cut text. -/
def WordCut.words (cut : WordCut) : List (List Char) :=
  if cut.current.isEmpty then cut.later else cut.current :: cut.later

/-- One more character in front. -/
def WordCut.push (c : Char) (cut : WordCut) : WordCut :=
  if !c.isAlphanum then ⟨[], cut.words⟩
  else if joinsWord c cut.current then ⟨c :: cut.current, cut.later⟩
  else ⟨[c], cut.words⟩

/-- The words of a text, as lists of characters. -/
def wordsOf (text : List Char) : List (List Char) :=
  (text.foldr WordCut.push ⟨[], []⟩).words

/-- The words of a text. -/
def splitWords (text : String) : List String :=
  (wordsOf text.toList).map String.ofList

/-- A word in small letters. -/
def lowerWord (word : List Char) : List Char :=
  word.map Char.toLower

/-- A word with a capital first letter and small letters after it. -/
def capitalizeWord : List Char → List Char
  | [] => []
  | c :: rest => c.toUpper :: rest.map Char.toLower

/-- `My Schema` becomes `mySchema`. -/
def camelCase (text : String) : String :=
  match wordsOf text.toList with
  | [] => ""
  | word :: rest => String.ofList (lowerWord word ++ (rest.map capitalizeWord).flatten)

/-- `Foo Bar` becomes `foo_bar`. -/
def snakeCase (text : String) : String :=
  "_".intercalate ((wordsOf text.toList).map fun word => String.ofList (lowerWord word))

/-- `foo_bar` becomes `FooBar`. -/
def pascalCase (text : String) : String :=
  String.ofList ((wordsOf text.toList).map capitalizeWord).flatten

/-- `fooBar` becomes `FOO_BAR`. -/
def upperSnakeCase (text : String) : String :=
  String.ofList ((snakeCase text).toList.map Char.toUpper)

end SchemaPress.Text
