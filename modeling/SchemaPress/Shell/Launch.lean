import SchemaPress.Shell.Start
import SchemaPress.Utility.Editing
import SchemaPress.Utility.Names

/-!
# Starting programs

Programs are looked for in the directories that a variable names. Some are utilities, which work at a
desk with the files and channels of the session. Others start a program themselves, which is named
among their arguments; they are given a `Starter` for it, so that they do not depend on what can be
started.
-/

namespace SchemaPress

namespace Utility

/-- The utilities that a script may call. -/
def table : List (String × (List String → Job Unit)) :=
  [("basename", basename), ("cat", cat), ("chmod", chmod), ("cmp", cmp), ("cp", cp), ("cut", cut),
   ("dirname", dirname), ("echo", echo), ("expr", expr), ("false", fun _ => modify fun desk =>
     { desk with status := 1 }), ("find", find), ("grep", grep), ("head", head), ("id", userIds),
   ("ln", ln), ("ls", ls), ("mkdir", mkdir), ("mv", mv), ("nl", nl), ("paste", paste),
   ("printenv", printenv), ("printf", printf), ("pwd", pwd), ("readlink", readlink),
   ("realpath", realpath), ("rev", rev), ("rm", rm), ("rmdir", rmdir), ("sed", sed), ("seq", seq),
   ("sleep", sleep), ("sort", sort), ("sync", fun _ => return ()), ("tac", tac), ("tail", tail),
   ("tee", tee), ("touch", touch), ("tr", tr), ("true", fun _ => return ()), ("uname", uname),
   ("uniq", uniq), ("wc", wc), ("whoami", whoami), ("yes", yes)]

end Utility

namespace Shell

/-- The names of the programs that a script may start. -/
def programNames : List String :=
  Utility.table.map Prod.fst ++ ["dash", "env", "nohup", "sh", "timeout", "which", "xargs"]

/-! ### Utilities -/

/-- Lets a utility do a job with the files and channels of the session. Its result is missing if it
gave up. -/
def atDesk {α : Type} (name : String) (job : Utility.Job α) : Act (Option α) := do
  let session ← get
  let desk : Utility.Desk :=
    { tree := session.tree, directory := session.directory, environment := session.environment, name
      input := session.readable 0 }
  let (result, desk) := (ExceptT.run job).run desk
  set ({ session with tree := desk.tree }.leave 0 desk.input)
  let closed := ((← get).write? 1 "").isNone
  if closed && name == "cat" then
    Act.report "cat: standard output: Bad file descriptor"
    Act.finish 1
  else if closed && !desk.output.isEmpty then
    Act.write 2 desk.errors
    Act.report (name ++ ": write error: Bad file descriptor")
    Act.finish (if ["grep", "ls", "sort"].contains name then 2 else 1)
  else
    Act.write 1 desk.output
    Act.write 2 desk.errors
    Act.finish desk.status
  return result.toOption

/-- What is at a path that is called as a program. -/
def refusedProgram (session : Session) (name : String) : Nat × String :=
  if name.toList.contains '/' then
    match session.tree.find (session.path name) with
    | .ok _ => (126, "Permission denied")
    | .error (.refused refusal _) =>
      if refusal matches .notFound | .notDirectory then (127, "not found") else (127, refusal.reason)
    | .error _ => (127, "not found")
  else if name.isEmpty then (127, "Permission denied")
  else (127, "not found")

/-- The program that a name stands for, by its path or through a search in directories. -/
def programOf? (directories name : String) : Option String :=
  if name.toList.contains '/' then
    programNames.find? fun program =>
      programDirectories.any fun directory => directory ++ "/" ++ program == name
  else (searched? programNames directories name).map fun _ => name

/-! ### Programs that start programs -/

/-- Starts the program that words name, and tells whether there is one. -/
abbrev Starter := List String → Act Bool

/-- Starts a program in the name of another one, which complains if there is none. -/
def Starter.follow (start : Starter) (complaint : String → String) (words : List String) :
    Act Unit := do
  if !(← start words) then
    let name := words.head?.getD ""
    let (status, reason) := refusedProgram (← get) name
    Act.report (complaint name ++ ": " ++
      if status = 126 then reason else Refusal.notFound.reason)
    Act.finish status

/-- Starts a program with a changed environment, or prints the environment. -/
def runEnv (start : Starter) (arguments : List String) : Act Unit := do
  let accepted : Utility.Accepted :=
    { plain := "i", valued := "u", long := [("ignore-environment", 'i'), ("unset", 'u')]
      failure := 125, inFront := true }
  match ← atDesk "env" (Utility.argumentsOf accepted arguments) with
  | none => return ()
  | some given =>
    let before ← get
    let alone := given.operands.head? == some "-"
    let operands := if alone then given.operands.drop 1 else given.operands
    if alone || given.has 'i' then modify fun session => { session with bindings := [] }
    given.options.forM fun (letter, name) =>
      if letter == 'u' then modify fun session => session.drop name else return ()
    let defined := operands.takeWhile fun text => text.toList.contains '='
    defined.forM fun text =>
      let (name, value) := definition text
      modify fun session => session.put name { value, exported := true }
    -- A program is still found without the variable that tells where programs are.
    if ((← get).value? "PATH").isNone then
      modify fun session => session.put "PATH" { value := some usualPath }
    match operands.drop defined.length with
    | [] =>
      let lines := (← get).environment.map fun (name, value) => name ++ "=" ++ value ++ "\n"
      Act.write 1 (String.join lines)
      Act.finish 0
    | words => start.follow (fun name => "env: " ++ Utility.quoted name) words
    modify fun after => { after with bindings := before.bindings }

/-- Starts a program that outlives its terminal; there is no terminal here. -/
def runNohup (start : Starter) (arguments : List String) : Act Unit := do
  let accepted : Utility.Accepted := { failure := 125, inFront := true }
  let words := atDesk "nohup" do
    let given ← Utility.argumentsOf accepted arguments
    if given.operands.isEmpty then Utility.Job.misuse 125 "missing operand"
    return given.operands
  match ← words with
  | none => return ()
  | some words =>
    start.follow (fun name => "nohup: failed to run command " ++ Utility.quoted name) words

/-- Whether a text is a length of time. -/
def isInterval (text : String) : Bool :=
  let whole := text.toList.takeWhile Char.isDigit
  let rest := text.toList.drop whole.length
  let decimals := match rest with
    | '.' :: behind => behind.takeWhile Char.isDigit
    | _ => []
  let rest := match rest with
    | '.' :: behind => behind.drop decimals.length
    | rest => rest
  (!whole.isEmpty || !decimals.isEmpty) && [[], ['s'], ['m'], ['h'], ['d']].contains rest

/-- Starts a program that has a limited time; here programs take no time. -/
def runTimeout (start : Starter) (arguments : List String) : Act Unit := do
  let accepted : Utility.Accepted :=
    { plain := "fpv", valued := "ks"
      long := [("foreground", 'f'), ("kill-after", 'k'), ("preserve-status", 'p'), ("signal", 's'),
        ("verbose", 'v')]
      failure := 125, inFront := true }
  let words := atDesk "timeout" do
    let given ← Utility.argumentsOf accepted arguments
    let checked (text : String) : Utility.Job Unit := do
      if !isInterval text then
        Utility.Job.misuse 125 ("invalid time interval " ++ Utility.quoted text)
    given.options.forM fun (letter, value) => do
      if letter == 'k' then checked value
      if letter == 's' && (signalOf? value).isNone then
        Utility.Job.misuse 125 (Utility.quoted value ++ ": invalid signal")
    match given.operands with
    | time :: name :: words => do
      checked time
      return name :: words
    | _ =>
      modify fun desk => { desk with
        errors := "Try 'timeout --help' for more information.\n", status := 125 }
      Utility.Job.stop
  match ← words with
  | none => return ()
  | some words =>
    start.follow (fun name => "timeout: failed to run command " ++ Utility.quoted name) words

/-- Tells where programs are. -/
def runWhich (arguments : List String) : Act Unit := do
  let session ← get
  let directories := (session.value? "PATH").getD ""
  let all := arguments.head? == some "-a"
  let names := if all then arguments.drop 1 else arguments
  let pathsOfName (name : String) : List String :=
    if (programOf? directories name).isNone then []
    else if name.toList.contains '/' then [name]
    else
      let found := (directories.splitOn ":").filter fun directory =>
        programDirectories.contains (withoutSlashes directory)
      (if all then found else found.take 1).map (· ++ "/" ++ name)
  let found := names.map pathsOfName
  Act.write 1 (String.join (found.flatten.map (· ++ "\n")))
  Act.finish (if names.isEmpty || found.any List.isEmpty then 1 else 0)

/-! ### Programs started with items of the input -/

/-- An item and what is behind it. It goes on to a character that `ends` it; between quotes and behind
a backslash characters are taken as they are. A quote that is left open is the error. -/
def itemFrom (ends : Char → Bool) (quote : Option Char) :
    List Char → Except Char (List Char × List Char)
  | [] =>
    match quote with
    | some mark => .error mark
    | none => .ok ([], [])
  | c :: rest =>
    match quote with
    | some mark =>
      if c == '\n' then .error mark
      else if c == mark then itemFrom ends none rest
      else (itemFrom ends quote rest).map fun (item, behind) => (c :: item, behind)
    | none =>
      if c == '\\' then
        match rest with
        | d :: rest => (itemFrom ends none rest).map fun (item, behind) => (d :: item, behind)
        | [] => .ok ([], [])
      else if c == '\'' || c == '"' then itemFrom ends (some c) rest
      else if ends c then .ok ([], c :: rest)
      else (itemFrom ends none rest).map fun (item, behind) => (c :: item, behind)

/-- The items of a text, each behind any blanks and line ends. -/
def itemsOf (ends : Char → Bool) (fuel : Nat) (chars : List Char) : Except Char (List String) :=
  match fuel, chars.dropWhile Char.isWhitespace with
  | 0, _ => .ok []
  | _, [] => .ok []
  | fuel + 1, chars =>
    match itemFrom ends none chars with
    | .error mark => .error mark
    | .ok (item, behind) => (itemsOf ends fuel behind).map (String.ofList item :: ·)

/-- The items of a text that stand between the same separator, which may be behind the last one,
too. -/
def itemsBetween (separator : Char) (text : String) : List String :=
  let items := text.splitOn (String.singleton separator)
  if items.getLast? == some "" then items.dropLast else items

/-- Lists of as many items each; the last one may have fewer. -/
def inGroups {α : Type} (size : Nat) (items : List α) : List (List α) :=
  (List.range ((items.length + size - 1) / max size 1)).map fun i => (items.drop (i * size)).take size

/-- The commands that items make of a command, or what is wrong. -/
def commandsOf (given : Utility.Arguments) (text : String) : Except String (List (List String)) := do
  let command := if given.operands.isEmpty then ["echo"] else given.operands
  let hole := if given.has 'i' then some "\x7b\x7d" else given.value? 'I'
  let read (ends : Char → Bool) (text : String) : Except String (List String) :=
    (itemsOf ends (text.length + 1) text.toList).mapError fun mark =>
      "unmatched " ++ (if mark == '"' then "double" else "single") ++
        " quote; by default quotes are special to xargs unless you use the -0 option"
  let separator := if given.has '0' then some '\x00'
    else (given.value? 'd').map fun text =>
      match text.toList with
      | ['\\', 'n'] => '\n'
      | ['\\', 't'] => '\t'
      | ['\\', '0'] => '\x00'
      | chars => chars.head?.getD '\x00'
  let ends (c : Char) : Bool := if hole.isSome then c == '\n' else c.isWhitespace
  match given.value? 'L' with
  | some size =>
    let lines := (text.splitOn "\n").filter fun line => !line.toList.all Char.isWhitespace
    let items ← lines.mapM (read ends)
    return (inGroups ((size.toNat?).getD 1) items).map fun lines => command ++ lines.flatten
  | none =>
    let items ← match separator with
      | some separator => pure (itemsBetween separator text)
      | none => read ends text
    match hole, (given.value? 'n').bind String.toNat? with
    | some hole, _ =>
      return items.map fun item => command.map fun word => item.intercalate (word.splitOn hole)
    | none, some size =>
      let groups := if items.isEmpty && !given.has 'r' then [[]] else inGroups size items
      return groups.map (command ++ ·)
    | none, none =>
      return if items.isEmpty && given.has 'r' then [] else [command ++ items]

/-- Starts the programs that commands name, one after the other, and adds to the status of the whole. A
status of 255 ends it all. -/
def runEach (start : Starter) (shown : Bool) (status : Nat) : List (List String) → Act Nat
  | [] => return status
  | words :: rest => do
    if shown then Act.report (" ".intercalate words)
    start.follow (fun name => "xargs: " ++ name) words
    let last := (← get).status
    if last = 255 then
      Act.report ("xargs: " ++ words.head?.getD "" ++ ": exited with status 255; aborting")
      return 124
    else if last = 126 || last = 127 then return last
    else runEach start shown (if last = 0 then status else 123) rest

/-- Starts a program with the items of the input as its arguments. -/
def runXargs (start : Starter) (arguments : List String) : Act Unit := do
  let accepted : Utility.Accepted :=
    { plain := "0irtx", valued := "dnILPs"
      long := [("null", '0'), ("no-run-if-empty", 'r'), ("verbose", 't'), ("max-args", 'n'),
        ("max-lines", 'L'), ("max-procs", 'P'), ("replace", 'I'), ("delimiter", 'd')]
      inFront := true }
  let commands := atDesk "xargs" do
    let given ← Utility.argumentsOf accepted arguments
    given.options.forM fun (letter, value) => do
      if ['n', 'L', 'P', 's'].contains letter && (value.toNat?).isNone then
        Utility.Job.misuse 1
          ("invalid number \"" ++ value ++ "\" for -" ++ String.singleton letter ++ " option")
    match commandsOf given (← Utility.Job.readInput) with
    | .ok commands => return (given.has 't', commands)
    | .error reason => Utility.Job.giveUp 1 reason
  match ← commands with
  | none => return ()
  | some (shown, commands) => Act.finish (← runEach start shown 0 commands)

/-! ### Programs by name -/

/-- Runs the program that words name, and tells whether there is one. Programs that start one another
may be as many as the bound says. -/
def runProgram (run : Runner) : Nat → Starter
  | 0, _ => return false
  | _, [] => return false
  | fuel + 1, name :: arguments => do
    let session ← get
    let start := runProgram run fuel
    match programOf? ((session.value? "PATH").getD "") name with
    | none => return false
    | some program =>
      match program, Utility.table.lookup program with
      | _, some utility => discard (atDesk name (utility arguments))
      | "env", none => runEnv start arguments
      | "nohup", none => runNohup start arguments
      | "timeout", none => runTimeout start arguments
      | "which", none => runWhich arguments
      | "xargs", none => runXargs start arguments
      | _, none => runInnerShell run arguments
      return true

end Shell

end SchemaPress
