import SchemaPress.Files.Walk
import SchemaPress.Text.Literal

/-!
# Options of a command line

How a list of arguments is taken apart. An option is written with its letter or its long name; its
value is the rest of the argument or the next argument. Values are looked at once all arguments are
taken apart, the options that were written first, in the order of their first mention.
-/

namespace SchemaPress.CommandLine

/-- What the value of an option has to be. -/
inductive ValueKind where
  /-- The option has no value. -/
  | flag
  /-- Any text. -/
  | text
  /-- The path of an existing file. -/
  | file
  /-- The path of a directory, which need not exist. -/
  | directory
  /-- One of these words. -/
  | choice (words : List String)
deriving DecidableEq, Repr

/-- An option of a command. -/
structure Switch where
  /-- The long name, with its dashes. -/
  name : String
  /-- The letter, with its dash. -/
  letter : Option String := none
  /-- What the value has to be. -/
  kind : ValueKind := .text
  /-- Whether the option has to be given. -/
  required : Bool := false
  /-- What the option is for. -/
  help : String
deriving DecidableEq, Repr

namespace Switch

/-- Whether the option takes a value. -/
def takesValue (switch : Switch) : Bool :=
  switch.kind ≠ .flag

/-- The option in a complaint about it. -/
def hint (switch : Switch) : String :=
  match switch.letter with
  | some letter => Text.literal switch.name ++ " / " ++ Text.literal letter
  | none => Text.literal switch.name

end Switch

/-- Why a command line is not understood. -/
inductive UsageError where
  /-- There is no such option. -/
  | noSuchOption (name : String) (similar : List String)
  /-- The option stands at the end, without its value. -/
  | noArgument (name : String)
  /-- A flag is written with a value. -/
  | unwantedValue (name : String)
  /-- The value does not fit. -/
  | invalidValue (switch : Switch) (reason : String)
  /-- A required option is not given. -/
  | missingOption (switch : Switch)
  /-- Arguments that belong to no option. -/
  | extraArguments (arguments : List String)
  /-- No command is given. -/
  | missingCommand
  /-- There is no such command. -/
  | noSuchCommand (name : String) (similar : List String)
deriving DecidableEq, Repr

/-- A proposal for a name that was not found. -/
def proposal : List String → String
  | [] => ""
  | [name] => " Did you mean " ++ Text.literal name ++ "?"
  | names => " (Did you mean one of: " ++ ", ".intercalate (names.map Text.literal) ++ "?)"

namespace UsageError

/-- The error in words. -/
def message : UsageError → String
  | .noSuchOption name similar => "No such option " ++ Text.literal name ++ "." ++ proposal similar
  | .noArgument name => "Option " ++ Text.literal name ++ " requires an argument."
  | .unwantedValue name => "Option " ++ Text.literal name ++ " does not take a value."
  | .invalidValue switch reason => "Invalid value for " ++ switch.hint ++ ": " ++ reason
  | .missingOption switch => "Missing option " ++ switch.hint ++ "."
  | .extraArguments arguments =>
    "Got unexpected extra argument" ++ (if arguments.length = 1 then "" else "s") ++ " (" ++
      " ".intercalate arguments ++ ")"
  | .missingCommand => "Missing command."
  | .noSuchCommand name similar => "No such command " ++ Text.literal name ++ "." ++ proposal similar

/-- Whether the usage of the command is shown with the error. -/
def showsUsage : UsageError → Bool
  | .noArgument _ => false
  | .unwantedValue _ => false
  | _ => true

end UsageError

/-! ### Similar names -/

/-- The number of characters that two texts have in common at their front. -/
def commonFront : List Char → List Char → Nat
  | a :: s, b :: t => if a = b then commonFront s t + 1 else 0
  | _, _ => 0

/-- The longest piece that two texts have in common: its places in both and its length. Of several
the first one counts. -/
def longestCommon (s t : List Char) : Nat × Nat × Nat :=
  (List.range s.length).foldl
    (fun best i =>
      (List.range t.length).foldl
        (fun (bestI, bestJ, size) j =>
          let n := commonFront (s.drop i) (t.drop j)
          if size < n then (i, j, n) else (bestI, bestJ, size)) best)
    (0, 0, 0)

/-- The number of characters in the pieces that two texts have in common, where the longest piece
splits both texts. -/
def agreement : Nat → List Char → List Char → Nat
  | 0, _, _ => 0
  | depth + 1, s, t =>
    match longestCommon s t with
    | (_, _, 0) => 0
    | (i, j, size) =>
      agreement depth (s.take i) (t.take j) + size +
        agreement depth (s.drop (i + size)) (t.drop (j + size))

/-- How much of two names agrees, out of the given number of characters. -/
def similarity (name word : String) : Nat × Nat :=
  (2 * agreement (name.length + 1) name.toList word.toList, name.length + word.length)

/-- Whether at least six tenths of two names agree. -/
def isSimilar (name word : String) : Bool :=
  let (part, whole) := similarity name word
  6 * whole ≤ 10 * part

/-- The up to three names that are most similar to a word, in the order of the alphabet. -/
def similarNames (names : List String) (word : String) : List String :=
  let ranked := (names.filter (isSimilar · word)).mergeSort fun a b =>
    let (p, m) := similarity a word
    let (q, n) := similarity b word
    decide (q * m < p * n ∨ (q * m = p * n ∧ b ≤ a))
  (ranked.take 3).mergeSort fun a b => decide (a ≤ b)

/-! ### Taking arguments apart -/

/-- An option with its value, as it is written. -/
structure Setting where
  /-- The option. -/
  switch : Switch
  /-- The value; empty for a flag. -/
  value : String
deriving DecidableEq, Repr

/-- The arguments taken apart: options in their order, and the arguments that are none. -/
structure Parsed where
  /-- The options. -/
  settings : List Setting
  /-- The other arguments. -/
  rest : List String
deriving DecidableEq, Repr

/-- The options of one argument, and the name of the option that waits for the next argument as its
value. -/
abbrev Taken := List Setting × Option (Switch × String)

/-- Takes an argument apart that starts with two dashes. -/
def takeLong (switches : List Switch) (argument : String) : Except UsageError Taken :=
  let (name, explicit) := Text.cutAt '=' argument.toList
  let name := String.ofList name
  match switches.find? fun switch => switch.name = name, explicit with
  | none, _ => .error (.noSuchOption name (similarNames (switches.map Switch.name) name))
  | some switch, some value =>
    if switch.takesValue then .ok ([⟨switch, String.ofList value⟩], none)
    else .error (.unwantedValue name)
  | some switch, none =>
    if switch.takesValue then .ok ([], some (switch, name)) else .ok ([⟨switch, ""⟩], none)

/-- Takes the letters of an argument apart that starts with one dash. -/
def takeLetters (switches : List Switch) : List Char → Except UsageError Taken
  | [] => .ok ([], none)
  | c :: rest =>
    let letter := String.ofList ['-', c]
    match switches.find? fun switch => switch.letter = some letter with
    | none => .error (.noSuchOption letter [])
    | some switch =>
      if switch.takesValue then
        if rest.isEmpty then .ok ([], some (switch, letter))
        else .ok ([⟨switch, String.ofList rest⟩], none)
      else do
        let (settings, waiting) ← takeLetters switches rest
        return (⟨switch, ""⟩ :: settings, waiting)

/-- Takes one argument apart that is an option. -/
def takeOption (switches : List Switch) (argument : String) : Except UsageError Taken :=
  if argument.startsWith "--" then takeLong switches argument
  else takeLetters switches (argument.toList.drop 1)

/-- Whether an argument is an option. -/
def isOption (argument : String) : Bool :=
  argument.startsWith "-" && argument.length > 1

/-- Takes arguments apart. Options may stand behind other arguments only if `mixed`; two dashes end
them. -/
def parse (switches : List Switch) (mixed : Bool) : List String → Except UsageError Parsed
  | [] => .ok ⟨[], []⟩
  | argument :: rest =>
    if argument = "--" then .ok ⟨[], rest⟩
    else if isOption argument then do
      let (settings, waiting) ← takeOption switches argument
      match waiting, rest with
      | none, rest => do
        let parsed ← parse switches mixed rest
        return ⟨settings ++ parsed.settings, parsed.rest⟩
      | some (_, name), [] => throw (.noArgument name)
      | some (switch, _), value :: rest => do
        let parsed ← parse switches mixed rest
        return ⟨settings ++ ⟨switch, value⟩ :: parsed.settings, parsed.rest⟩
    else if mixed then do
      let parsed ← parse switches mixed rest
      return ⟨parsed.settings, argument :: parsed.rest⟩
    else .ok ⟨[], argument :: rest⟩

/-! ### Checking values -/

/-- What stands at a path, seen from a directory. A path that cannot be looked up leads to nothing,
except that no path has a NUL character in it. -/
def entryAt (tree : Tree) (directory : Location) (text : String) : Except Crash (Option Entry) :=
  if text.isEmpty then .ok none
  else
    match tree.find ((Path.ofLocation directory).child text) with
    | .ok (_, entry) => .ok (some entry)
    | .error (.crash cause) => .error cause
    | .error _ => .ok none

/-- Why a value does not fit, if it does not. -/
def misfit? (tree : Tree) (directory : Location) (kind : ValueKind) (value : String) :
    Except Crash (Option String) := do
  match kind with
  | .flag => return none
  | .text => return none
  | .file =>
    match ← entryAt tree directory value with
    | none => return some ("File " ++ Text.literal value ++ " does not exist.")
    | some .directory => return some ("File " ++ Text.literal value ++ " is a directory.")
    | some (.unreadable _) => return some ("File " ++ Text.literal value ++ " is not readable.")
    | some _ => return none
  | .directory =>
    match ← entryAt tree directory value with
    | some (.file _) | some (.unreadable _) =>
      return some ("Directory " ++ Text.literal value ++ " is a file.")
    | _ => return none
  | .choice words =>
    if words.contains value then return none
    else
      return some (Text.literal value ++ " is not one of " ++
        ", ".intercalate (words.map Text.literal) ++ ".")

/-- The values of an option. A file or directory counts where it is named last, so only that one has
to fit. -/
def valuesOf (settings : List Setting) (switch : Switch) : List String :=
  (settings.filter fun setting => setting.switch = switch).map Setting.value

/-- The last value of an option. -/
def lastOf? (settings : List Setting) (switch : Switch) : Option String :=
  (valuesOf settings switch).getLast?

/-- The values of an option that have to fit. -/
def checkedValues (settings : List Setting) (switch : Switch) : List String :=
  match switch.kind with
  | .choice _ => valuesOf settings switch
  | _ => (lastOf? settings switch).toList

/-- Checks the values of one option. -/
def checkSwitch (tree : Tree) (directory : Location) (settings : List Setting) (switch : Switch) :
    Except (Stop UsageError) Unit := do
  let values := checkedValues settings switch
  if switch.required && values.isEmpty then throw (.error (.missingOption switch))
  values.forM fun value => do
    match ← (misfit? tree directory switch.kind value).mapError .crash with
    | some reason => throw (.error (.invalidValue switch reason))
    | none => return ()

/-- The options in the order in which they are checked: first those that are written. -/
def checkOrder (switches : List Switch) (settings : List Setting) : List Switch :=
  let written := (settings.map Setting.switch).eraseDups
  written ++ switches.filter fun switch => !written.contains switch

/-- Checks the arguments of a command that takes options only. -/
def check (tree : Tree) (directory : Location) (switches : List Switch) (parsed : Parsed) :
    Except (Stop UsageError) Unit := do
  (checkOrder switches parsed.settings).forM (checkSwitch tree directory parsed.settings)
  if !parsed.rest.isEmpty then throw (.error (.extraArguments parsed.rest))

end SchemaPress.CommandLine
