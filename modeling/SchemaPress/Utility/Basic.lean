import SchemaPress.Files.Text
import SchemaPress.Shell.Session

/-!
# Utilities

The programs that a script may call besides the commands of the shell: a part of the usual small
tools, with their options and complaints. A `Job` is what such a program does with the files, its
input and its output; it may give up before it is done.
-/

namespace SchemaPress.Utility

/-- What a program works with. -/
structure Desk where
  /-- The files. -/
  tree : Tree
  /-- The working directory. -/
  directory : Location
  /-- The variables that the program sees. -/
  environment : List (String × String) := []
  /-- The name of the program. -/
  name : String
  /-- What it can still read. -/
  input : String := ""
  /-- What it has written. -/
  output : String := ""
  /-- What it has complained about. -/
  errors : String := ""
  /-- Its status. -/
  status : Nat := 0

/-- What a program does. -/
abbrev Job (α : Type) : Type := ExceptT PUnit (StateM Desk) α

namespace Job

/-- Writes text. -/
def say (text : String) : Job Unit :=
  modify fun desk => { desk with output := desk.output ++ text }

/-- Writes a line. -/
def sayLine (text : String) : Job Unit :=
  say (text ++ "\n")

/-- Complains, and goes on to a failure of this status. -/
def complain (status : Nat) (text : String) : Job Unit :=
  modify fun desk => { desk with
    errors := desk.errors ++ desk.name ++ ": " ++ text ++ "\n"
    status := max desk.status status }

/-- Ends the program. -/
def stop {α : Type} : Job α :=
  throw ()

/-- Ends the program with a complaint. -/
def giveUp {α : Type} (status : Nat) (text : String) : Job α := do
  complain status text
  stop

/-- Ends the program with a complaint and a hint where help is found. -/
def misuse {α : Type} (status : Nat) (text : String) : Job α := do
  let name := (← get).name
  giveUp status (text ++ "\nTry '" ++ name ++ " --help' for more information.")

/-- The path that a text spells. -/
def pathOf (text : String) : Job Path := do
  return (Path.ofLocation (← get).directory).child (Shell.toText text)

/-- Reads the whole input. -/
def readInput : Job String := do
  let text := (← get).input
  modify fun desk => { desk with input := "" }
  return text

/-- Puts another file tree in place. -/
def setTree (tree : Tree) : Job Unit :=
  modify fun desk => { desk with tree }

end Job

/-! ### Names in complaints -/

/-- A byte that is printed as it is. -/
def isPlain (c : Char) : Bool :=
  32 ≤ c.toNat && c.toNat ≤ 126

/-- A byte that the shell would take for something else. -/
def isTricky (c : Char) : Bool :=
  !isPlain c || " !\"$&()*;<=>[^\x60|'\\?".toList.contains c

/-- Three octal digits of a byte behind a backslash, or its one-letter escape. -/
def octalEscape (c : Char) : String :=
  match c with
  | '\n' => "\\n"
  | '\t' => "\\t"
  | '\r' => "\\r"
  | '\x07' => "\\a"
  | '\x08' => "\\b"
  | '\x0b' => "\\v"
  | '\x0c' => "\\f"
  | c =>
    let n := c.toNat
    "\\" ++ toString (n / 64) ++ toString (n / 8 % 8) ++ toString (n % 8)

/-- Bytes between single quotes, where bytes that cannot be printed are escaped in quotes of their
own; `escaping` says that such quotes are open. -/
def quotedFrom (escaping : Bool) : List Char → String
  | [] => "'"
  | c :: rest =>
    if !isPlain c then
      (if escaping then "" else "'$'") ++ octalEscape c ++ quotedFrom true rest
    else
      (if escaping then "''" else "") ++
        (if c == '\'' then "'\\''" else String.singleton c) ++ quotedFrom false rest

/-- A name between quotes. -/
def quoted (name : String) : String :=
  let chars := name.toList
  if chars.contains '\'' && chars.all fun c => isPlain c && !"\"$\x60\\!".toList.contains c then
    "\"" ++ name ++ "\""
  else
    match chars with
    | c :: _ => if isPlain c then "'" ++ quotedFrom false chars
        else "''" ++ String.ofList ((quotedFrom false chars).toList.drop 1)
    | [] => "''"

/-- A name, between quotes only if the shell would take it for something else. -/
def shown (name : String) : String :=
  let chars := name.toList
  let opensTricky := match chars with
    | '#' :: _ => true
    | '~' :: _ => true
    | ['\x7b'] => true
    | ['\x7d'] => true
    | [] => true
    | _ => false
  if opensTricky || chars.any isTricky then quoted name else name

/-- Why a file operation failed. -/
def reasonOf : FileFailure → String
  | .refused refusal _ => refusal.reason
  | .unmoved refusal _ _ => refusal.reason
  | .crash _ => "Invalid argument"

/-! ### Options -/

/-- The options of a program. -/
structure Accepted where
  /-- The letters without a value. -/
  plain : String := ""
  /-- The letters with a value. -/
  valued : String := ""
  /-- The long names and the letters that they stand for. -/
  long : List (String × Char) := []
  /-- The status of a wrong option. -/
  failure : Nat := 1
  /-- Whether options stand only in front of all other arguments. -/
  inFront : Bool := false

/-- The arguments of a program, taken apart. -/
structure Arguments where
  /-- The options with their values. -/
  options : List (Char × String) := []
  /-- The other arguments. -/
  operands : List String := []

namespace Arguments

/-- Whether an option is given. -/
def has (arguments : Arguments) (letter : Char) : Bool :=
  arguments.options.any fun option => option.1 == letter

/-- The last value of an option. -/
def value? (arguments : Arguments) (letter : Char) : Option String :=
  ((arguments.options.filter fun option => option.1 == letter).getLast?).map Prod.snd

end Arguments

/-- The options that the letters of an argument give; a letter with a value takes the rest of the
argument, or else the next argument, which is told by the truth value. -/
def lettersOf (accepted : Accepted) (next : Option String) :
    List Char → Job (List (Char × String) × Bool)
  | [] => return ([], false)
  | c :: rest => do
    if accepted.plain.toList.contains c then
      let (options, taken) ← lettersOf accepted next rest
      return ((c, "") :: options, taken)
    else if accepted.valued.toList.contains c then
      if !rest.isEmpty then return ([(c, String.ofList rest)], false)
      else
        match next with
        | some value => return ([(c, value)], true)
        | none =>
          Job.misuse accepted.failure
            ("option requires an argument -- '" ++ String.singleton c ++ "'")
    else Job.misuse accepted.failure ("invalid option -- '" ++ String.singleton c ++ "'")

/-- The option that a long name gives, which may be shortened. -/
def longOf (accepted : Accepted) (next : Option String) (argument : String) :
    Job ((Char × String) × Bool) := do
  let name := String.ofList ((argument.toList.drop 2).takeWhile (· != '='))
  let value := (argument.toList.drop (2 + name.length)).drop 1
  let exact := accepted.long.filter fun entry => entry.1 == name
  let found := if exact.isEmpty then accepted.long.filter fun entry => entry.1.startsWith name else exact
  match found with
  | [] => Job.misuse accepted.failure ("unrecognized option '" ++ argument ++ "'")
  | (_, letter) :: _ =>
    if accepted.valued.toList.contains letter then
      if argument.toList.contains '=' then return ((letter, String.ofList value), false)
      else
        match next with
        | some value => return ((letter, value), true)
        | none => Job.misuse accepted.failure ("option '--" ++ name ++ "' requires an argument")
    else return ((letter, ""), false)

/-- Takes the arguments of a program apart. -/
def takeApart (accepted : Accepted) : Nat → List String → Job Arguments
  | 0, operands => return { operands }
  | _, [] => return {}
  | fuel + 1, argument :: rest => do
    if argument == "--" then return { operands := rest }
    else if argument.startsWith "--" then
      let (option, taken) ← longOf accepted rest.head? argument
      let others ← takeApart accepted fuel (if taken then rest.drop 1 else rest)
      return { others with options := option :: others.options }
    else if argument.startsWith "-" && argument.length > 1 then
      let (options, taken) ← lettersOf accepted rest.head? (argument.toList.drop 1)
      let others ← takeApart accepted fuel (if taken then rest.drop 1 else rest)
      return { others with options := options ++ others.options }
    else if accepted.inFront then return { operands := argument :: rest }
    else
      let others ← takeApart accepted fuel rest
      return { others with operands := argument :: others.operands }

/-- The arguments of a program. -/
def argumentsOf (accepted : Accepted) (arguments : List String) : Job Arguments :=
  takeApart accepted (arguments.length + 1) arguments

/-! ### Text -/

/-- The lines of a text, each with its line feed if it has one. -/
def linesOf (text : String) : List String :=
  let (last, lines) := text.toList.foldr
    (fun c (line, lines) =>
      if c == '\n' then (['\n'], if line.isEmpty then lines else line :: lines) else (c :: line, lines))
    (([] : List Char), ([] : List (List Char)))
  ((if last.isEmpty then lines else last :: lines)).map String.ofList

/-- A line without its line feed. -/
def bareLine (line : String) : String :=
  if line.endsWith "\n" then String.ofList line.toList.dropLast else line

/-- The text of a file, or of the input for a dash; nothing after a complaint made by `refuse`. -/
def contents (refuse : String → Job Unit) (name : String) : Job (Option String) := do
  if name == "-" then return some (← Job.readInput)
  else
    let path ← Job.pathOf name
    if path.text == "/dev/null" then return some ""
    else if name.isEmpty then
      refuse Refusal.notFound.reason
      return none
    else
      match (← get).tree.readBytes path with
      | .ok bytes => return some (Shell.ofBytes bytes)
      | .error failure =>
        refuse (reasonOf failure)
        return none

/-- The texts of files, or of the input if none is named. -/
def contentsOf (names : List String) : Job (List (String × String)) := do
  let names := if names.isEmpty then ["-"] else names
  let texts ← names.mapM fun name => do
    return (← contents (fun reason => Job.complain 1 (shown name ++ ": " ++ reason)) name).map (name, ·)
  return texts.filterMap id

end SchemaPress.Utility
