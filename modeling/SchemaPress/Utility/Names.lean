import SchemaPress.Shell.Format
import SchemaPress.Utility.Files
import SchemaPress.Utility.Regex

/-!
# Utilities for names and numbers

`basename`, `dirname`, `readlink`, `realpath`, `find`, `seq`, `expr`, `cmp`, `chmod`, `sleep`, and the
utilities that tell something about the system.
-/

namespace SchemaPress.Utility

/-! ### Names of files -/

/-- A name without an ending, unless it is nothing but that ending. -/
def withoutEnding (name ending : String) : String :=
  if !ending.isEmpty && name != ending && name.endsWith ending then
    String.ofList (name.toList.take (name.length - ending.length))
  else name

/-- `basename`. -/
def basename (arguments : List String) : Job Unit := do
  let parsed ← argumentsOf
    { plain := "az", valued := "s", inFront := true, long := [("multiple", 'a'), ("suffix", 's')] }
    arguments
  match parsed.value? 's' with
  | some ending => parsed.operands.forM fun name => Job.sayLine (withoutEnding (baseName name) ending)
  | none =>
    match parsed.operands with
    | [] => Job.misuse 1 "missing operand"
    | names =>
      if parsed.has 'a' then names.forM fun name => Job.sayLine (baseName name)
      else
        match names with
        | [name] => Job.sayLine (baseName name)
        | [name, ending] => Job.sayLine (withoutEnding (baseName name) ending)
        | _ => Job.misuse 1 ("extra operand " ++ quoted ((names.drop 2).head?.getD ""))

/-- The path of the directory that a path leads into. -/
def directoryName (name : String) : String :=
  let turned := name.toList.reverse.dropWhile (· == '/')
  let above := (turned.dropWhile (· != '/')).dropWhile (· == '/')
  if above.isEmpty then (if name.startsWith "/" then "/" else ".") else String.ofList above.reverse

/-- `dirname`. -/
def dirname (arguments : List String) : Job Unit := do
  let parsed ← argumentsOf { plain := "z" } arguments
  if parsed.operands.isEmpty then Job.misuse 1 "missing operand"
  parsed.operands.forM fun name => Job.sayLine (directoryName name)

/-- The text of a place. -/
def placeText (location : Location) : String :=
  Shell.ofText (Path.ofLocation location).text

/-- `readlink`. -/
def readlink (arguments : List String) : Job Unit := do
  let parsed ← argumentsOf { plain := "femnqsv", long := [("canonicalize", 'f')] } arguments
  if parsed.operands.isEmpty then Job.misuse 1 "missing operand"
  parsed.operands.forM fun name => do
    let failed : Job Unit := modify fun desk => { desk with status := 1 }
    if parsed.has 'f' || parsed.has 'e' || parsed.has 'm' then
      match (← get).tree.resolve (← Job.pathOf name) with
      | .ok location => Job.sayLine (placeText location)
      | .error _ => failed
    else
      match ← entryAt false name with
      | .ok (_, .link target) => Job.sayLine (Shell.ofText target)
      | _ => failed

/-- `realpath`. -/
def realpath (arguments : List String) : Job Unit := do
  let parsed ← argumentsOf { plain := "eLmPqsz" } arguments
  if parsed.operands.isEmpty then Job.misuse 1 "missing operand"
  parsed.operands.forM fun name => do
    let tree := (← get).tree
    let path ← Job.pathOf name
    match tree.walk true path with
    | .ok (.vacant _ _) =>
      if parsed.has 'e' then Job.complain 1 (shown name ++ ": " ++ Refusal.notFound.reason)
      else
        match tree.resolve path with
        | .ok location => Job.sayLine (placeText location)
        | .error _ => Job.complain 1 (shown name ++ ": " ++ Refusal.tooManyLinks.reason)
    | .ok (.entry location _) => Job.sayLine (placeText location)
    | .error failure => Job.complain 1 (shown name ++ ": " ++ reasonOf failure)

/-- Whether a path passes the tests of `find`. -/
def passes (path : String) (entry : Entry) : List String → Bool
  | "-name" :: text :: rest =>
    let marks := text.toList.map (·, false)
    (Shell.Pattern.ofMarks 0 marks).fits (baseName path).toList && passes path entry rest
  | "-type" :: kind :: rest =>
    (match kind, entry with
      | "f", .file _ => true
      | "d", .directory => true
      | "l", .link _ => true
      | _, _ => false) && passes path entry rest
  | _ :: rest => passes path entry rest
  | [] => true

/-- `find`. -/
def find (arguments : List String) : Job Unit := do
  let starts := arguments.takeWhile fun text => !text.startsWith "-"
  let tests := arguments.drop starts.length
  let starts := if starts.isEmpty then ["."] else starts
  starts.forM fun name => do
    match ← entryAt false name with
    | .ok (location, _) => do
      let tree := (← get).tree
      (pathsBelow tree (tree.entries.length + 2) location name).forM fun (path, entry) =>
        if passes path entry tests then Job.sayLine path else pure ()
    | .error failure => Job.complain 1 (quoted name ++ ": " ++ reasonOf failure)

/-- `chmod`. The rights of files are of no account. -/
def chmod (arguments : List String) : Job Unit := do
  match arguments with
  | [] => Job.misuse 1 "missing operand"
  | [mode] => Job.misuse 1 ("missing operand after " ++ quoted mode)
  | _ :: names =>
    names.forM fun name => do
      match ← entryAt true name with
      | .ok _ => return ()
      | .error failure => Job.complain 1 ("cannot access " ++ quoted name ++ ": " ++ reasonOf failure)

/-- The first byte in which two texts differ, with its number and the number of its line. -/
def firstDifference (place line : Nat) : List Char → List Char → Option (Nat × Nat)
  | a :: s, b :: t =>
    if a == b then firstDifference (place + 1) (if a == '\n' then line + 1 else line) s t
    else some (place, line)
  | _, _ => none

/-- `cmp`. -/
def cmp (arguments : List String) : Job Unit := do
  let parsed ← argumentsOf { plain := "s", failure := 2, long := [("silent", 's')] } arguments
  match parsed.operands with
  | [first, second] =>
    let read (name : String) : Job String := do
      match ← contents (fun reason => Job.complain 2 (name ++ ": " ++ reason)) name with
      | some text => return text
      | none => Job.stop
    let a := (← read first).toList
    let b := (← read second).toList
    let differ (text : String) (isComplaint : Bool) : Job Unit := do
      if parsed.has 's' then modify fun desk => { desk with status := 1 }
      else if isComplaint then Job.complain 1 text
      else
        Job.sayLine text
        modify fun desk => { desk with status := 1 }
    match firstDifference 1 1 a b with
    | some (place, line) =>
      differ (first ++ " " ++ second ++ " differ: char " ++ toString place ++ ", line " ++
        toString line) false
    | none =>
      if a.length = b.length then return ()
      else
        let (short, name) := if a.length < b.length then (a, first) else (b, second)
        if short.isEmpty then differ ("EOF on " ++ name ++ " which is empty") true
        else
          let lines := short.count '\n'
          let details := if short.getLast? = some '\n' then ", line " ++ toString lines
            else ", in line " ++ toString (lines + 1)
          differ ("EOF on " ++ name ++ " after byte " ++ toString short.length ++ details) true
  | _ => Job.misuse 2 "missing operand"

/-! ### Numbers -/

/-- The integer that a text writes. -/
def integer? (text : String) : Option Int :=
  match text.toList with
  | '-' :: rest =>
    if rest.isEmpty || !rest.all Char.isDigit then none else some (-(Shell.decimalNumber rest : Int))
  | '+' :: rest =>
    if rest.isEmpty || !rest.all Char.isDigit then none else some (Shell.decimalNumber rest)
  | chars =>
    if chars.isEmpty || !chars.all Char.isDigit then none else some (Shell.decimalNumber chars)

/-- The numbers from one to another by steps. -/
def series (fuel : Nat) (first step last : Int) : List Int :=
  match fuel with
  | 0 => []
  | fuel + 1 =>
    if (0 < step && last < first) || (step < 0 && first < last) then []
    else first :: series fuel (first + step) step last

/-- The arguments of `seq`, behind its options. -/
def seqOperands : List String → (String × Bool) × List String
  | "-s" :: text :: rest =>
    let ((_, wide), operands) := seqOperands rest
    ((text, wide), operands)
  | "-w" :: rest =>
    let ((separator, _), operands) := seqOperands rest
    ((separator, true), operands)
  | operands => (("\n", false), operands)

/-- `seq`. -/
def seq (arguments : List String) : Job Unit := do
  let ((separator, wide), operands) := seqOperands arguments
  let numbers ← operands.mapM fun text => do
    match integer? text with
    | some n => return n
    | none => Job.misuse 1 ("invalid floating point argument: " ++ quoted text)
  let (first, step, last) ← match numbers with
    | [] => Job.misuse 1 "missing operand"
    | [last] => pure (1, 1, last)
    | [first, last] => pure (first, 1, last)
    | [first, step, last] => pure (first, step, last)
    | _ => Job.misuse 1 ("extra operand " ++ quoted ((operands.drop 3).head?.getD ""))
  if step = 0 then
    Job.misuse 1 ("invalid Zero increment value: " ++ quoted ((operands.drop 1).head?.getD ""))
  let found := series ((last - first).natAbs + 1) first step last
  let width := (found.map fun n => (toString n).length).foldl max 0
  let texts := found.map fun n =>
    let text := toString n
    if wide then String.ofList (List.replicate (width - text.length) '0') ++ text else text
  if !texts.isEmpty then Job.sayLine (separator.intercalate texts)

/-- A value of `expr`, which is always a text. -/
abbrev Value := String

/-- A reader of the arguments of `expr`. -/
abbrev Calc (α : Type) : Type := StateT (List String) (Except String) α

/-- Whether a value counts as false. -/
def isFalse (value : Value) : Bool :=
  value.isEmpty || integer? value = some 0

/-- What an operator of `expr` makes of two values. -/
def combine (operator : String) (a b : Value) : Calc Value := do
  let truth (holds : Bool) : Value := if holds then "1" else "0"
  let numbers : Calc (Int × Int) := do
    match integer? a, integer? b with
    | some x, some y => return (x, y)
    | _, _ => throw "non-integer argument"
  let compare (onNumbers : Int → Int → Bool) (onTexts : String → String → Bool) : Value :=
    match integer? a, integer? b with
    | some x, some y => truth (onNumbers x y)
    | _, _ => truth (onTexts a b)
  match operator with
  | "|" => return if isFalse a then (if isFalse b then "0" else b) else a
  | "&" => return if isFalse a || isFalse b then "0" else a
  | "=" | "==" => return compare (fun x y => decide (x = y)) (· == ·)
  | "!=" => return compare (fun x y => decide (x ≠ y)) (· != ·)
  | "<" => return compare (fun x y => decide (x < y)) fun s t => decide (s < t)
  | "<=" => return compare (fun x y => decide (x ≤ y)) fun s t => decide (s ≤ t)
  | ">" => return compare (fun x y => decide (y < x)) fun s t => decide (t < s)
  | ">=" => return compare (fun x y => decide (y ≤ x)) fun s t => decide (t ≤ s)
  | "+" => do
    let (x, y) ← numbers
    return toString (x + y)
  | "-" => do
    let (x, y) ← numbers
    return toString (x - y)
  | "*" => do
    let (x, y) ← numbers
    return toString (x * y)
  | "/" | "%" => do
    let (x, y) ← numbers
    if y = 0 then throw "division by zero"
    return toString (if operator == "/" then Int.tdiv x y else Int.tmod x y)
  | _ =>
    match Regex.parse false b with
    | .error reason => throw reason
    | .ok regex =>
      let fit := regex.longest false ⟨[], a.toList, []⟩
      if b.toList.contains '(' && (b.splitOn "\\(").length > 1 then
        return String.ofList ((fit.bind fun fit => fit.texts.lookup 1).getD [])
      else return toString ((fit.map fun fit => fit.before.length).getD 0)

/-- The operators of `expr`, those that bind most loosely first. -/
def levels : List (List String) :=
  [["|"], ["&"], ["=", "==", "!=", "<", "<=", ">", ">="], ["+", "-"], ["*", "/", "%"], [":"]]

mutual

/-- A sum whose operators bind at least as tightly as the given levels. -/
def sumOf : Nat → List (List String) → Calc Value
  | 0, _ => throw "syntax error"
  | fuel + 1, [] => simpleValue fuel
  | fuel + 1, operators :: tighter => do
    let first ← sumOf fuel tighter
    sumFrom fuel operators tighter first

/-- What follows the first value of a sum. -/
def sumFrom : Nat → List String → List (List String) → Value → Calc Value
  | 0, _, _, _ => throw "syntax error"
  | fuel + 1, operators, tighter, first => do
    match ← get with
    | operator :: rest =>
      if operators.contains operator then
        if rest.isEmpty then throw ("syntax error: missing argument after " ++ quoted operator)
        set rest
        let second ← sumOf fuel tighter
        sumFrom fuel operators tighter (← combine operator first second)
      else return first
    | [] => return first

/-- A value, a function, or a sum in parentheses. -/
def simpleValue : Nat → Calc Value
  | 0 => throw "syntax error"
  | fuel + 1 => do
    let next : Calc Value := do
      match ← get with
      | [] => throw "syntax error: missing argument"
      | _ :: _ => simpleValue fuel
    match ← get with
    | "(" :: rest =>
      set rest
      let value ← sumOf fuel levels
      match ← get with
      | ")" :: rest =>
        set rest
        return value
      | [] => throw "syntax error: expecting ')' after"
      | other :: _ => throw ("syntax error: expecting ')' instead of " ++ quoted other)
    | "length" :: rest =>
      if rest.isEmpty then return (← get).head?.getD ""
      set rest
      return toString (← next).length
    | "substr" :: rest =>
      set rest
      let text ← next
      let start ← next
      let size ← next
      match integer? start, integer? size with
      | some start, some size =>
        if start ≤ 0 || size ≤ 0 then return ""
        else return String.ofList ((text.toList.drop (start.toNat - 1)).take size.toNat)
      | _, _ => return ""
    | "index" :: rest =>
      set rest
      let text ← next
      let set ← next
      return toString (match text.toList.findIdx? set.toList.contains with
        | some n => n + 1
        | none => 0)
    | "+" :: value :: rest =>
      set rest
      return value
    | value :: rest =>
      set rest
      return value
    | [] => throw "syntax error: missing argument"

end

/-- `expr`. -/
def expr (arguments : List String) : Job Unit := do
  let arguments := if arguments.head? == some "--" then arguments.drop 1 else arguments
  if arguments.isEmpty then Job.misuse 2 "missing operand"
  match (sumOf (16 * arguments.length + 32) levels).run arguments with
  | .error reason => Job.giveUp 2 reason
  | .ok (_, extra :: _) => Job.giveUp 2 ("syntax error: unexpected argument " ++ quoted extra)
  | .ok (value, []) =>
    Job.sayLine value
    if isFalse value then modify fun desk => { desk with status := 1 }

/-! ### The system -/

/-- `sleep`. No time passes. -/
def sleep (arguments : List String) : Job Unit := do
  if arguments.isEmpty then Job.misuse 1 "missing operand"
  let isTime (text : String) : Bool :=
    let chars := text.toList
    let digits := if (chars.getLast?.any fun c => "smhd".toList.contains c) then chars.dropLast else chars
    !digits.isEmpty && digits.all fun c => c.isDigit || c == '.'
  match arguments.find? fun text => !isTime text with
  | some text => Job.misuse 1 ("invalid time interval " ++ quoted text)
  | none => return ()

/-- `yes`, which comes to an end here after more lines than anything reads. -/
def yes (arguments : List String) : Job Unit :=
  let line := if arguments.isEmpty then "y" else " ".intercalate arguments
  Job.say (String.join (List.replicate 10000 (line ++ "\n")))

/-- `printenv`. -/
def printenv (arguments : List String) : Job Unit := do
  let environment := (← get).environment
  if arguments.isEmpty then environment.forM fun (name, value) => Job.sayLine (name ++ "=" ++ value)
  else
    arguments.forM fun name =>
      match environment.lookup name with
      | some value => Job.sayLine value
      | none => modify fun desk => { desk with status := 1 }

/-- `uname`. -/
def uname (_ : List String) : Job Unit :=
  Job.sayLine "Linux"

/-- `whoami`. -/
def whoami (_ : List String) : Job Unit :=
  Job.sayLine "root"

/-- `id`. -/
def userIds (arguments : List String) : Job Unit := do
  let parsed ← argumentsOf { plain := "ugnG" } arguments
  if parsed.has 'n' then Job.sayLine "root"
  else if parsed.has 'u' || parsed.has 'g' || parsed.has 'G' then Job.sayLine "0"
  else Job.sayLine "uid=0(root) gid=0(root) groups=0(root)"

/-- `echo`, where escapes are carried out only if the option `-e` asks for it. -/
def echo (arguments : List String) : Job Unit := do
  let isOption (text : String) : Bool :=
    text.length > 1 && text.startsWith "-" &&
      (text.toList.drop 1).all fun c => c == 'n' || c == 'e' || c == 'E'
  let options := arguments.takeWhile isOption
  let text := " ".intercalate (arguments.drop options.length)
  let letters := options.flatMap String.toList
  let (chars, ended) := if letters.contains 'e' then Shell.carriedOut 0 text.toList
    else (text.toList, false)
  Job.say (String.ofList chars ++ if ended || letters.contains 'n' then "" else "\n")

/-- `printf`. -/
def printf (arguments : List String) : Job Unit := do
  match arguments with
  | [] => Job.misuse 1 "missing operand"
  | format :: arguments =>
    let printing := Shell.printFormat format arguments
    Job.say (String.ofList printing.printed.reverse)
    printing.complaints.reverse.forM (Job.complain 1)
    match printing.failure with
    | some reason => Job.giveUp 1 reason
    | none => return ()

/-- `pwd`. -/
def pwd (_ : List String) : Job Unit := do
  Job.sayLine (placeText (← get).directory)

end SchemaPress.Utility
