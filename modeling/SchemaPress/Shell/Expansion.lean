import SchemaPress.Shell.Arithmetic
import SchemaPress.Shell.Pattern
import SchemaPress.Shell.Session

/-!
# What words stand for

A word is expanded in steps. Its parameters, commands and sums are replaced by their values, which
gives a list of glyphs: characters that remember whether they were quoted and whether they came out of
a value. Then the word falls into fields where separators came out of values, and each field that is a
pattern is replaced by the names of the files that fit it.
-/

namespace SchemaPress.Shell

/-- A part of a word whose parameters are replaced. -/
inductive Glyph where
  /-- A character; one that is `loose` may separate fields. -/
  | char (c : Char) (quoted loose : Bool)
  /-- A pair of quotes, which makes a field even of nothing. -/
  | quotes
  /-- The border between two arguments that are kept apart. -/
  | wall
  /-- The border between two arguments, which separates fields like a blank. -/
  | gap
deriving DecidableEq, Repr

/-- The characters of a text as glyphs. -/
def glyphsOf (text : String) (quoted loose : Bool) : List Glyph :=
  text.toList.map fun c => .char c quoted loose

/-- The marks of a pattern that glyphs write. A backslash that came out of a value quotes the next
character. -/
def marksOf : List Glyph → List Mark
  | [] => []
  | .char '\\' false _ :: .char c _ _ :: rest => (c, true) :: marksOf rest
  | .char c quoted _ :: rest => (c, quoted) :: marksOf rest
  | _ :: rest => marksOf rest

/-- The text that glyphs write. -/
def spelling (glyphs : List Glyph) : String :=
  String.ofList (glyphs.filterMap fun glyph =>
    match glyph with
    | .char c _ _ => some c
    | _ => none)

/-! ### Parameters -/

/-- The letters of options in the order in which they are told. -/
def optionOrder : List Char := "ubaCEVvxsnmiIfe".toList

/-- The value of a parameter that is no list. -/
def parameter? (session : Session) (name : String) : Option String :=
  match name with
  | "#" => some (toString session.arguments.length)
  | "?" => some (toString session.status)
  | "$" => some (toString Session.processNumber)
  | "-" => some (String.ofList (optionOrder.filter session.has))
  | "!" =>
    if session.jobs.isEmpty then none
    else some (toString (Session.processNumber + session.jobs.length))
  | "0" => some session.name
  | name =>
    match name.toNat? with
    | some n => if n = 0 then some session.name else session.arguments[n - 1]?
    | none => session.value? name

/-- Whether a parameter is the list of all arguments. -/
def isList (name : String) : Bool :=
  name == "@" || name == "*"

/-- The first separator; a space if separators are not set at all. -/
def joint (session : Session) : String :=
  String.ofList (session.separators.take 1)

/-- Glyphs with a border between them. -/
def bordered (border : Glyph) : List (List Glyph) → List Glyph
  | [] => []
  | [last] => last
  | first :: rest => first ++ border :: bordered border rest

/-- The value of a parameter as glyphs, if it has one, as a list of arguments always does. With `full`
the list stays a list. -/
def valueGlyphs (session : Session) (name : String) (full quoted : Bool) : Option (List Glyph) :=
  if isList name then
    let arguments := session.arguments.map fun text => glyphsOf text quoted (!quoted)
    if arguments.isEmpty then some []
    else if quoted && full && name == "@" then some (bordered .wall arguments ++ [.quotes])
    else if !quoted && full then some (bordered .gap arguments)
    else some (glyphsOf ((joint session).intercalate session.arguments) quoted (!quoted))
  else (parameter? session name).map fun text => glyphsOf text quoted (!quoted)

/-- A text without the line feeds at its end. -/
def withoutLastLineEnds (text : String) : String :=
  String.ofList (text.toList.reverse.dropWhile (· == '\n')).reverse

/-- The value of a sum in the session. -/
def sumOf (text : String) : Act String := do
  let session ← get
  let values := session.bindings.filterMap fun (name, entry) => entry.value.map (name, ·)
  match Sum.value text values with
  | .ok (value, assigned) =>
    assigned.reverse.forM fun (name, value) => Act.assign name value
    return toString value
  | .error (.wrong reason) =>
    Act.fault 2 ("arithmetic expression: " ++ reason ++ ": \"" ++ text ++ "\"")
  | .error (.noNumber text) => Act.fault 2 ("Illegal number: " ++ text)

/-! ### Replacing parameters -/

mutual

/-- The glyphs of a word. `substitute` gives the output of a command. With `full` the word may fall
into fields, with `loose` its plain characters may separate them. -/
def glyphs (substitute : Command → Act String) (full loose : Bool) : List Piece → Act (List Glyph)
  | [] => return []
  | piece :: rest => do
    let front ← pieceGlyphs substitute full loose piece
    return front ++ (← glyphs substitute full loose rest)

/-- The glyphs of a piece of a word. -/
def pieceGlyphs (substitute : Command → Act String) (full loose : Bool) :
    Piece → Act (List Glyph)
  | .char c quoted => return [.char c quoted (loose && !quoted)]
  | .quotes => return [.quotes]
  | .output command quoted => do
    let text := withoutLastLineEnds (← substitute command)
    return glyphsOf (String.ofList (text.toList.filter (· != '\x00'))) quoted (!quoted)
  | .sum word quoted => do
    let text := spelling (← glyphs substitute false false word)
    return glyphsOf (← sumOf text) quoted (!quoted)
  | .parameter name use word quoted => do
    let session ← get
    let value := valueGlyphs session name full quoted
    let missing (filled : Bool) : Bool :=
      match value with
      | none => true
      | some value => filled && (spelling value).isEmpty
    let known : Act (List Glyph) := do
      match value with
      | some value => return value
      | none =>
        if session.has 'u' then Act.fault 2 (name ++ ": parameter not set")
        else return []
    match use with
    | .value => known
    | .size =>
      let size := (← known).countP (· ≠ .quotes)
      return glyphsOf (toString size) quoted (!quoted)
    | .orElse filled =>
      if missing filled then glyphs substitute full (!quoted) word else known
    | .andThen filled =>
      if missing filled then return [] else glyphs substitute full (!quoted) word
    | .orAssign filled =>
      if missing filled then
        let text := spelling (← glyphs substitute false false word)
        if isName name.toList then
          Act.assign name text
          return glyphsOf text quoted (!quoted)
        else Act.fault 2 (name ++ ": bad variable name")
      else known
    | .orFail filled =>
      if missing filled then
        let text := spelling (← glyphs substitute false false word)
        let reason := if text.isEmpty then
            "parameter not set" ++ (if filled then " or null" else "")
          else text
        Act.fault 2 (name ++ ": " ++ reason)
      else known
    | .trim atEnd longest =>
      let text := (spelling (← known)).toList
      let pattern := Pattern.ofMarks 0 (marksOf (← glyphs substitute false false word))
      return glyphsOf (String.ofList (trimmed pattern atEnd longest text)) quoted (!quoted)
    | .unknown => Act.fault 2 "Bad substitution"

end

/-! ### Fields -/

/-- Whether a separator is a blank, of which several count as one. -/
def isBlankSeparator (c : Char) : Bool :=
  c == ' ' || c == '\t' || c == '\n'

/-- Whether a glyph is a separator that several count as one of. -/
def isSoft (separators : List Char) : Glyph → Bool
  | .gap => true
  | .char c _ true => separators.contains c && isBlankSeparator c
  | _ => false

/-- Whether a glyph is a separator that ends a field of its own. -/
def isHard (separators : List Char) : Glyph → Bool
  | .char c _ true => separators.contains c && !isBlankSeparator c
  | _ => false

/-- The glyphs behind a soft separator: one hard separator may stand among more soft ones. -/
def behindSoft (separators : List Char) (glyphs : List Glyph) : List Glyph :=
  match glyphs.dropWhile (isSoft separators) with
  | [] => []
  | glyph :: rest =>
    if isHard separators glyph then rest.dropWhile (isSoft separators) else glyph :: rest

/-- The fields that glyphs fall into, behind the glyphs of the field that has begun. -/
def fields (separators : List Char) (fuel : Nat) (begun : List Glyph) (glyphs : List Glyph) :
    List (List Glyph) :=
  match fuel, glyphs with
  | _, [] => if begun.isEmpty then [] else [begun.reverse]
  | 0, _ => [begun.reverse]
  | fuel + 1, glyph :: rest =>
    -- A wall ends a field even if that is empty; soft separators end only what has begun.
    if glyph = .wall then begun.reverse :: fields separators fuel [] rest
    else if isHard separators glyph then
      begun.reverse :: fields separators fuel [] (rest.dropWhile (isSoft separators))
    else if isSoft separators glyph then
      if begun.isEmpty then fields separators fuel [] rest
      else begun.reverse :: fields separators fuel [] (behindSoft separators rest)
    else fields separators fuel (glyph :: begun) rest

/-! ### Names of files -/

/-- The names in a directory, in the order of their bytes. -/
def namesIn (tree : Tree) (location : Location) : List String :=
  -- Entries right below the directory have one more step than its own location.
  let below := tree.entries.filterMap fun (place, _) =>
    if place.length = location.length + 1 && location.isPrefixOf place then place.getLast? else none
  (below.map ofText).mergeSort fun a b => decide (a ≤ b)

/-- The pieces between the slashes of a pattern. -/
def components (marks : List Mark) : List (List Mark) :=
  marks.foldr
    (fun mark (parts : List (List Mark)) =>
      if mark.1 == '/' then [] :: parts
      else
        match parts with
        | part :: rest => (mark :: part) :: rest
        | [] => [[mark]])
    [[]]

/-- Whether anything is at a path. -/
def isEntry (session : Session) (text : String) : Bool :=
  match session.tree.walk (text.endsWith "/") (session.path text) with
  | .ok (.entry _ entry) => !text.endsWith "/" || entry = .directory
  | _ => false

/-- The names in a directory that fit a pattern. Names with a period in front fit only patterns that
have it, too. -/
def fitting (session : Session) (front : String) (pattern : Pattern) : List String :=
  match session.tree.find (session.path front) with
  | .ok (location, .directory) =>
    let dotted := pattern.head? == some (.exactly '.')
    let names := (if dotted then [".", ".."] else []) ++ namesIn session.tree location
    names.filter fun name => name.startsWith "." == dotted && pattern.fits name.toList
  | _ => []

/-- The paths that fit a pattern behind a path. -/
def pathsFrom (session : Session) (front : String) : List (List Mark) → List String
  | [] => []
  | [last] =>
    let pattern := Pattern.ofMarks 0 last
    if pattern.isOpen then (fitting session front pattern).map (front ++ ·)
    else
      let path := front ++ String.ofList (last.map Prod.fst)
      if isEntry session path then [path] else []
  | part :: rest =>
    let pattern := Pattern.ofMarks 0 part
    if pattern.isOpen then
      (fitting session front pattern).flatMap fun name =>
        if isEntry session (front ++ name ++ "/") then pathsFrom session (front ++ name ++ "/") rest
        else []
    else pathsFrom session (front ++ String.ofList (part.map Prod.fst) ++ "/") rest

/-- The paths that a field stands for: itself if it is no pattern or no file fits it. -/
def pathsOf (session : Session) (field : List Glyph) : List String :=
  let marks := marksOf field
  if session.has 'f' || !(Pattern.ofMarks 0 marks).isOpen then [spelling field]
  else
    match pathsFrom session "" (components marks) with
    | [] => [spelling field]
    | paths => paths.mergeSort fun a b => decide (a ≤ b)

/-! ### Words -/

/-- The home directories of users that are known by name. -/
def userHomes : List (String × String) :=
  [("root", "/root"), ("daemon", "/usr/sbin"), ("bin", "/bin"), ("nobody", "/nonexistent")]

/-- A word whose tilde in front, with the name of a user behind it, is replaced by a home directory. -/
def withHome (session : Session) (word : Word) : Word :=
  match word with
  | .char '~' false :: rest =>
    let user := rest.takeWhile fun piece => (piece matches .char _ false) && !(piece matches .char '/' _)
    let behind := rest.drop user.length
    let home? := match bare? user with
      | some [] => session.value? "HOME"
      | some name => userHomes.lookup (String.ofList name)
      | none => none
    match home?, behind with
    | some home, [] => home.toList.map (Piece.char · true)
    | some home, .char '/' false :: _ => home.toList.map (Piece.char · true) ++ behind
    | _, _ => word
  | word => word

/-- The arguments that a word stands for. -/
def expandFields (substitute : Command → Act String) (word : Word) : Act (List String) := do
  let word := withHome (← get) word
  let glyphs ← glyphs substitute true false word
  let session ← get
  return (fields session.separators (glyphs.length + 1) [] glyphs).flatMap (pathsOf session)

/-- The text that a word stands for where it stands for one text. -/
def expandText (substitute : Command → Act String) (word : Word) : Act String := do
  return spelling (← glyphs substitute false false (withHome (← get) word))

/-- The pattern that a word stands for. -/
def expandPattern (substitute : Command → Act String) (word : Word) : Act Pattern := do
  return Pattern.ofMarks 0 (marksOf (← glyphs substitute false false (withHome (← get) word)))

end SchemaPress.Shell
