import SchemaPress.Toml.Assembly
import SchemaPress.Toml.Scalar

/-!
# Reading a document

Each reader answers what it read and what is left; a text that is no document is answered by `none`,
for nothing that follows depends on the fault. Arrays and inline tables may run over several lines.
The lines that were read are put together by `Document.ofStatements?`.
-/

namespace SchemaPress.Toml

/-! ### Keys -/

/-- A character of a name without quotes. -/
def isBare (c : Char) : Bool :=
  c.isAlphanum || c == '-' || c == '_'

/-- The characters without the blanks around them. -/
def trimmed (s : List Char) : List Char :=
  ((s.dropWhile isSpace).reverse.dropWhile isSpace).reverse

/-- Reads one name of a key, with the blanks around it. -/
def keyPart (s : List Char) : Option (KeyPart × Rest s) :=
  match lineText (s.dropWhile isSpace) with
  | some (name, rest) =>
    let rest := (rest.widen (List.dropWhile_suffix isSpace)).skip isSpace
    some (⟨String.ofList name, String.ofList rest.read⟩, rest)
  | none =>
    match s with
    | [] => none
    | c :: r =>
      if isBare c || isSpace c then
        let rest := (Rest.tail c r).skip fun c => isBare c || isSpace c
        let name := trimmed rest.read
        if name.isEmpty || name.any isSpace then none
        else some (⟨String.ofList name, String.ofList rest.read⟩, rest)
      else none

/-- How deep values may lie in one another, and how many names a key may have. -/
def deepestNesting : Nat := 100

/-- Reads the names of a key, at most `room` of them. -/
def names (room : Nat) (s : List Char) : Option (Key × Rest s) := do
  match room with
  | 0 => none
  | room + 1 =>
    let (part, rest) ← keyPart s
    match rest.after? '.' with
    | none => return ([part], rest)
    | some next => do
      let (more, last) ← names room next.chars
      return (part :: more, next.trans last)

/-- Reads a key. -/
def key (s : List Char) : Option (Key × Rest s) :=
  names deepestNesting s

/-- A character between a key and its value. -/
def isSeparator (c : Char) : Bool :=
  c == '=' || isSpace c

/-- Reads a key and the sign of equality behind it, with the blanks around that. -/
def keyAndSign (s : List Char) : Option (Key × String × Rest s) := do
  let (key, rest) ← key s
  let separator := rest.chars.takeWhile isSeparator
  if separator.count '=' = 1 then
    return (key, String.ofList separator, rest.skip isSeparator)
  else none

/-! ### Values -/

/-- A character that ends a number or a date. -/
def endsWord (c : Char) : Bool :=
  [' ', '\t', '\n', '\r', '#', ',', ']', '\x7d'].contains c

/-- Reads a number, a date or a time. A day and a time may stand apart, with a blank between. -/
def word (c : Char) (s : List Char) : Option (Rest (c :: s)) :=
  let rest := (Rest.tail c s).skip fun d => !endsWord d
  let word := c :: s.takeWhile fun d => !endsWord d
  let isSigned := c == '+' || c == '-'
  if isDate word then
    let time := (rest.chars.takeWhile fun d => d == ' ' || !endsWord d).reverse.dropWhile
      Text.isBlank
    if time.isEmpty then some rest
    else if isMoment (word ++ time.reverse) then
      some (rest.narrow (rest.chars.drop time.length) (List.drop_suffix _ _))
    else none
  else if isMoment word || isTime word then some rest
  else if (c.isDigit || isSigned || word == "inf".toList || word == "nan".toList) && isNumber word
  then some rest
  else none

/-- Reads a value that holds no other value. -/
def scalar (s : List Char) : Option (Rest s) :=
  match s with
  | [] => none
  | 't' :: 'r' :: 'u' :: 'e' :: r => some (Rest.dropSome 3 't' ('r' :: 'u' :: 'e' :: r))
  | 'f' :: 'a' :: 'l' :: 's' :: 'e' :: r => some (Rest.dropSome 4 'f' ('a' :: 'l' :: 's' :: 'e' :: r))
  | c :: r => if c == '"' || c == '\'' then anyText (c :: r) else word c r

/-- What is left behind the blanks, ends of lines and comments in front. -/
def filler (s : List Char) : Option { t : List Char // t <:+ s } :=
  match s with
  | [] => some ⟨[], List.suffix_refl []⟩
  | c :: r =>
    if isSpace c || c == '\n' then
      (filler r).map fun t => ⟨t.1, t.2.trans (List.suffix_cons c r)⟩
    else if c == '#' then
      if (r.takeWhile (· != '\n')).any isControl then none
      else (filler (r.dropWhile (· != '\n'))).map fun t =>
        ⟨t.1, t.2.trans ((List.dropWhile_suffix _).trans (List.suffix_cons c r))⟩
    else some ⟨c :: r, List.suffix_refl (c :: r)⟩
termination_by s.length
decreasing_by
  · simp
  · have := (List.dropWhile_suffix (l := r) (· != '\n')).length_le
    simp only [List.length_cons]
    omega

/-- The characters of a text in front of one of its ends, as an item of an inline table. -/
def blanks (s rest : List Char) : List Item :=
  if s.length = rest.length then []
  else [.blank (String.ofList (s.take (s.length - rest.length)))]

/-- Adds an item to those of an inline table. -/
def inlineItem (items : List Item) (item : Item) : Option (List Item) :=
  join deepest true items item

mutual
/-- Reads a value, which may hold others `room` deep. -/
def value (room : Nat) (s : List Char) : Option (Value × Rest s) :=
  match room, s with
  | 0, '[' :: _ => none
  | 0, '\x7b' :: _ => none
  | room + 1, '[' :: r => do
    let rest ← elements room r
    let rest := (Rest.tail '[' r).trans rest
    return (.plain (String.ofList rest.read), rest)
  | room + 1, '\x7b' :: r => do
    let (items, rest) ← inlineItems room r
    return (.inline (← items.foldlM inlineItem []), (Rest.tail '\x7b' r).trans rest)
  | _, s => (scalar s).map fun rest => (.plain (String.ofList rest.read), rest)
termination_by 2 * s.length
decreasing_by all_goals (simp only [List.length_cons]; omega)

/-- Reads the elements of an array from behind its bracket or a comma up to the closing bracket. -/
def elements (room : Nat) (s : List Char) : Option (Rest s) := do
  let ⟨start, hs⟩ ← filler s
  match Rest.over? ']' start with
  | some rest => return rest.widen hs
  | none => do
    have := hs.length_le
    let (_, rest) ← value room start
    let ⟨u, hu⟩ ← filler rest.chars
    let rest := (rest.narrow u hu).widen hs
    match rest.after? ',' with
    | some next => do
      have := next.shorter
      let last ← elements room next.chars
      return next.trans last
    | none => rest.after? ']'
termination_by 2 * s.length + 1
decreasing_by all_goals omega

/-- Reads the items of an inline table from behind its brace or a comma up to the closing brace. -/
def inlineItems (room : Nat) (s : List Char) : Option (List Item × Rest s) := do
  let ⟨start, hs⟩ ← filler s
  have := hs.length_le
  let lead := blanks s start
  match Rest.over? '\x7d' start with
  | some rest => return (lead, rest.widen hs)
  | none => do
    let (key, separator, left) ← keyAndSign start
    have := left.shorter
    let (inner, next) ← value room left.chars
    let rest := left.trans next
    let ⟨u, hu⟩ ← filler rest.chars
    -- Blanks and comments between the items are items of their own, so that they are printed again.
    let front := lead ++ Item.ofKey { separator, lineEnd := {} } inner key :: blanks rest.chars u
    let rest := (rest.narrow u hu).widen hs
    match rest.after? ',' with
    | some next => do
      have := next.shorter
      let (items, last) ← inlineItems room next.chars
      return (front ++ .comma :: items, next.trans last)
    | none => do
      let last ← rest.after? '\x7d'
      return (front, last)
termination_by 2 * s.length + 1
decreasing_by all_goals omega
end

/-! ### Statements -/

/-- Reads a comment from behind its sign, and the end of its line. -/
def commentEnd (gap : String) (s : List Char) : Option (LineEnd × { t : List Char // t <:+ s }) :=
  let comment := s.takeWhile (· != '\n')
  let left := s.dropWhile (· != '\n')
  if comment.any isControl then none
  else
    some (⟨gap, String.ofList ('#' :: comment), if left.isEmpty then "" else "\n"⟩,
      ⟨left.drop 1, (List.drop_suffix 1 left).trans (List.dropWhile_suffix _)⟩)

/-- Reads what may follow a value or a header on its line. -/
def lineEnd (s : List Char) : Option (LineEnd × { t : List Char // t <:+ s }) :=
  let gap := String.ofList (s.takeWhile isSpace)
  match h : s.dropWhile isSpace with
  | [] => some (⟨gap, "", ""⟩, ⟨[], List.nil_suffix⟩)
  | '\n' :: r =>
    some (⟨gap, "", "\n"⟩, ⟨r, (List.suffix_cons '\n' r).trans
      (suffix_of_dropWhile h)⟩)
  | '#' :: r =>
    (commentEnd gap r).map fun (lineEnd, left) =>
      (lineEnd, ⟨left.1, left.2.trans ((List.suffix_cons '#' r).trans
        (suffix_of_dropWhile h))⟩)
  | _ => none

/-- Reads a header from behind its first bracket. -/
def header (indent : String) (s : List Char) : Option (HeaderLine × Rest s) := do
  let (isArray, start) : Bool × { t : List Char // t <:+ s } := match s with
    | '[' :: r => (true, ⟨r, List.suffix_cons '[' r⟩)
    | s => (false, ⟨s, List.suffix_refl s⟩)
  let (key, rest) ← key start.1
  let rest ← rest.after? ']'
  let rest ← if isArray then rest.after? ']' else some rest
  let rest := rest.widen start.2
  let (lineEnd, left) ← lineEnd rest.chars
  return ({ indent, isArray, key, lineEnd }, rest.narrow left.1 left.2)

/-- Reads an entry with its value. -/
def pair (indent : String) (s : List Char) : Option (Item × Rest s) := do
  let (key, separator, rest) ← keyAndSign s
  let (value, next) ← value deepestNesting rest.chars
  let rest := rest.trans next
  let (lineEnd, left) ← lineEnd rest.chars
  return (.ofKey { indent, separator, lineEnd } value key, rest.narrow left.1 left.2)

/-- Reads a statement from the first character that is no blank, behind the blanks `indent`. -/
def bareStatement (indent : String) (s : List Char) : Option (Statement × Rest s) :=
  match s with
  | [] => none
  | '\n' :: r => some (.item (.blank (indent ++ "\n")), .tail '\n' r)
  | '[' :: r =>
    (header indent r).map fun (line, rest) => (.header line, (Rest.tail '[' r).trans rest)
  | '#' :: r =>
    (commentEnd "" r).map fun (lineEnd, left) =>
      (.item (.comment indent lineEnd), (Rest.tail '#' r).narrow left.1 left.2)
  | s => (pair indent s).map fun (item, rest) => (.item item, rest)

/-- The statement that the characters start with, behind its indentation. -/
def statement (s : List Char) : Option (Statement × Rest s) :=
  match h : s.dropWhile isSpace with
  | [] => none
  | c :: r =>
    (bareStatement (String.ofList (s.takeWhile isSpace)) (c :: r)).map fun (first, rest) =>
      (first, rest.widen (suffix_of_dropWhile h))

/-- The statements of a text. Blanks behind the last of them are kept as an entry. -/
def statements (s : List Char) : Option (List Statement) :=
  if (s.dropWhile isSpace).isEmpty then
    some (if s.isEmpty then [] else [.item (.blank (String.ofList s))])
  else
    match statement s with
    | none => none
    | some (first, rest) =>
      have := rest.shorter
      (statements rest.chars).map (first :: ·)
termination_by s.length

/-- The document that a text is. -/
def Document.parse? (text : String) : Option Document := do
  ofStatements? (← statements text.toList)

end SchemaPress.Toml
