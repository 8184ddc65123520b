import SchemaPress.Release.Compiler
import SchemaPress.Shell.Condition
import SchemaPress.Shell.Options
import SchemaPress.Shell.Reading
import SchemaPress.Shell.Redirecting

/-!
# Commands of the shell itself

The commands that change the shell or ask it something: its working directory, functions, aliases,
traps and jobs. Those that run other commands are not among them.
-/

namespace SchemaPress.Shell

/-! ### Signals -/

/-- What the shell says of a command that a signal ended. -/
def signalText (signal : Nat) : String :=
  match signal with
  | 1 => "Hangup"
  | 2 => ""
  | 3 => "Quit"
  | 4 => "Illegal instruction"
  | 5 => "Trace/breakpoint trap"
  | 6 => "Aborted"
  | 7 => "Bus error"
  | 8 => "Floating point exception"
  | 9 => "Killed"
  | 10 => "User defined signal 1"
  | 11 => "Segmentation fault"
  | 12 => "User defined signal 2"
  | 13 => ""
  | 14 => "Alarm clock"
  | 15 => "Terminated"
  | n => "Signal " ++ toString n

/-- The signals that do nothing to a shell that does not ask for them. -/
def isHarmless (signal : Nat) : Bool :=
  [0, 17, 18, 23, 28].contains signal

/-- The number of a signal that is spelled by number or name. -/
def signalOf? (text : String) : Option Nat :=
  match text.toNat? with
  | some n => if n ≤ 64 then some n else none
  | none =>
    if text == "EXIT" then some 0
    else (signals.find? fun (_, name) => name == text.toUpper || "SIG" ++ name == text.toUpper).map Prod.fst

/-! ### Directories and traps -/

/-- `cd`. -/
def changeDirectory (arguments : List String) : Act Unit := do
  let (_, names) ← letters "LP" (arguments.length + 1) arguments
  let session ← get
  let target := match names with
    | [] => (session.value? "HOME").getD ""
    | "-" :: _ => (session.value? "OLDPWD").getD ""
    | name :: _ => name
  let found := if target.isEmpty then some session.directory
    else
      match session.tree.find (session.path target) with
      | .ok (place, .directory) => some place
      | _ => none
  match found with
  | none => Act.fault 2 ("can't cd to " ++ target)
  | some directory =>
    let before := ofText (Path.ofLocation session.directory).text
    let after := ofText (Path.ofLocation directory).text
    set { session with directory, status := 0 }
    Act.assign "OLDPWD" before
    Act.assign "PWD" after
    if names.head? = some "-" then Act.write 1 (after ++ "\n")

/-- `trap`. -/
def setTraps (arguments : List String) : Act Unit := do
  let session ← get
  Act.finish 0
  let arguments := if arguments.head? = some "--" then arguments.drop 1 else arguments
  match arguments with
  | [] =>
    let nameOf (signal : Nat) : String :=
      if signal = 0 then "EXIT" else (signals.lookup signal).getD (toString signal)
    let sorted := session.traps.mergeSort fun a b => decide (a.1 ≤ b.1)
    Act.write 1 (String.join (sorted.map fun (signal, action) =>
      "trap -- " ++ quotedValue action ++ " " ++ nameOf signal ++ "\n"))
  | first :: rest =>
    let resets := rest.isEmpty || first == "-" || (first.toNat?).isSome
    let names := if rest.isEmpty || (first != "-" && (first.toNat?).isSome) then first :: rest else rest
    discard (names.foldlM
      (fun (going : Bool) name => do
        if !going then return false
        match signalOf? name with
        | none =>
          Act.report ("trap: " ++ name ++ ": bad trap")
          Act.finish 1
          return false
        | some signal =>
          modify fun session =>
            let others := session.traps.filter fun entry => entry.1 != signal
            { session with traps := if resets then others else (signal, first) :: others }
          return true)
      true)

/-- What the shell says about the use of `kill`. -/
def killUsage : String :=
  "Usage: kill [-s sigspec | -signum | -sigspec] [pid | job]... or\nkill -l [exitstatus]"

/-- The signal and the processes that the arguments of `kill` name. -/
def killTargets (arguments : List String) : Act (Nat × List String) := do
  let signalNamed (text : String) : Act Nat := do
    match signalOf? text with
    | some n => return n
    | none => Act.fault 2 ("invalid signal number or name: " ++ text)
  match arguments with
  | [] => Act.fault 2 killUsage
  | "-s" :: name :: rest => return (← signalNamed name, rest)
  | "--" :: rest => return (15, rest)
  | first :: rest =>
    if first.startsWith "-" && first.length > 1 then
      return (← signalNamed (String.ofList (first.toList.drop 1)), rest)
    else return (15, first :: rest)

/-- `umask`. Rights are kept nowhere else, so the mask is only told. -/
def setMask (arguments : List String) : Act Unit := do
  Act.finish 0
  match arguments with
  | [] => Act.write 1 ("0" ++ String.ofList (← get).mask ++ "\n")
  | text :: _ =>
    match text.toList with
    | [] => return ()
    | c :: chars =>
      if !c.isDigit then return ()
      else if !(c :: chars).all fun c => '0' ≤ c && c ≤ '7' then
        Act.fault 2 ("Illegal number: " ++ text)
      else
        let digits := ['0', '0', '0'] ++ c :: chars
        modify fun session => { session with mask := digits.drop (digits.length - 3) }

/-! ### Aliases and jobs -/

/-- An alias as its definition is written. -/
def aliasText (name text : String) : String :=
  name ++ "=" ++ quotedValue text

/-- `alias`. -/
def setAliases (arguments : List String) : Act Unit := do
  Act.finish 0
  if arguments.isEmpty then
    Act.write 1 (String.join ((← get).aliases.map fun (name, text) => aliasText name text ++ "\n"))
  else
    arguments.forM fun argument => do
      let session ← get
      match definition argument with
      | (name, some text) =>
        let others := session.aliases.filter fun entry => entry.1 != name
        set { session with aliases := others ++ [(name, text)] }
      | (name, none) =>
        match session.aliases.lookup name with
        | some text => Act.write 1 (aliasText name text ++ "\n")
        | none =>
          Act.report ("alias: " ++ name ++ " not found")
          Act.finish 1

/-- `unalias`. -/
def dropAliases (arguments : List String) : Act Unit := do
  let (options, names) ← letters "a" (arguments.length + 1) arguments
  Act.finish 0
  if options.contains 'a' then modify fun session => { session with aliases := [] }
  else
    names.forM fun name => do
      let session ← get
      if (session.aliases.lookup name).isSome then
        set { session with aliases := session.aliases.filter fun entry => entry.1 != name }
      else
        Act.report ("unalias: " ++ name ++ " not found")
        Act.finish 1

/-- `wait`. All jobs are over when it is called. -/
def awaitJobs (arguments : List String) : Act Unit := do
  let session ← get
  Act.finish 0
  arguments.forM fun argument => do
    match argument.toList with
    | '%' :: _ =>
      let number := ((String.ofList (argument.toList.drop 1)).toNat?).getD 0
      match if number = 0 then none else session.jobs[number - 1]? with
      | some status => Act.finish status
      | none => Act.fault 2 ("No such job: " ++ argument)
    | _ => Act.finish ((session.jobOf? (← numberOf argument)).getD 127)

/-! ### What names mean -/

/-- The commands of the shell. -/
def builtinNames : List String :=
  specialNames ++ ["[", "alias", "bg", "cd", "chdir", "command", "echo", "false", "fg", "getopts",
    "hash", "jobs", "kill", "printf", "pwd", "read", "test", "true", "type", "ulimit", "umask",
    "unalias", "wait"]

/-- Where programs are kept. -/
def programDirectories : List String := ["/usr/bin", "/bin"]

/-- A directory without the slashes at its end. -/
def withoutSlashes (directory : String) : String :=
  String.ofList (directory.toList.reverse.dropWhile (· == '/')).reverse

/-- The path of a program that is searched for in directories that are written with colons between
them. -/
def searched? (programs : List String) (directories name : String) : Option String := do
  guard (programs.contains name)
  let directory ← (directories.splitOn ":").find? fun directory =>
    programDirectories.contains (withoutSlashes directory)
  return directory ++ "/" ++ name

/-- The path of a program of the session. -/
def programPath? (session : Session) (programs : List String) (name : String) : Option String :=
  searched? programs ((session.value? "PATH").getD "") name

/-- What `type` says of a name, and whether it means anything. -/
def typeText (session : Session) (programs : List String) (name : String) : String × Bool :=
  if keywords.contains name then (name ++ " is a shell keyword", true)
  else
    match session.aliases.lookup name with
    | some text => (name ++ " is an alias for " ++ text, true)
    | none =>
      if specialNames.contains name && name != "local" then
        (name ++ " is a special shell builtin", true)
      else if (session.functions.lookup name).isSome then (name ++ " is a shell function", true)
      else if builtinNames.contains name then (name ++ " is a shell builtin", true)
      else
        match programPath? session programs name with
        | some path => (name ++ " is " ++ path, true)
        | none => (name ++ ": not found", false)

/-- What `command -v` says of a name. -/
def meaning? (session : Session) (programs : List String) (name : String) : Option String :=
  if keywords.contains name then some name
  else
    match session.aliases.lookup name with
    | some text => some ("alias " ++ aliasText name text)
    | none =>
      if builtinNames.contains name || (session.functions.lookup name).isSome then some name
      else programPath? session programs name

/-- `hash`, where nothing is remembered. -/
def lookUp (programs arguments : List String) : Act Unit := do
  let session ← get
  Act.finish 0
  arguments.forM fun name => do
    if (meaning? session programs name).isNone then
      Act.complain (name ++ ": not found")
      Act.finish 1

/-- `printf`. -/
def printByFormat (arguments : List String) : Act Unit := do
  let (_, arguments) ← letters "" (arguments.length + 1) arguments
  match arguments with
  | [] => Act.fault 2 "usage: printf format [arg ...]"
  | format :: arguments =>
    let printing := printFormat format arguments
    printing.complaints.reverse.forM Act.complain
    Act.write 1 (String.ofList printing.printed.reverse)
    match printing.failure with
    | some reason => Act.fault 2 reason
    | none => Act.finish (if printing.complaints.isEmpty then 0 else 1)

/-- `test`, and the same with a bracket. -/
def testCondition (command : String) (arguments : List String) : Act Unit := do
  if command == "[" && arguments.getLast? ≠ some "]" then Act.fault 2 "missing ]"
  let words := if command == "[" then arguments.dropLast else arguments
  match Condition.holds (← get) words with
  | .ok holds => Act.finish (if holds then 0 else 1)
  | .error reason => Act.fault 2 reason

/-- `echo`. Nothing can be written into a channel that is closed. -/
def echo (arguments : List String) : Act Unit := do
  let session ← get
  match session.write? 1 (echoText arguments) with
  | some session => set { session with status := 0 }
  | none =>
    Act.complain "echo: I/O error"
    Act.finish 1

/-- A command of the shell that runs no other commands; nothing if it is none. -/
def plainBuiltin? (programs : List String) (name : String) (arguments : List String) :
    Option (Act Unit) :=
  match name with
  | ":" | "true" => some (Act.finish 0)
  | "false" => some (Act.finish 1)
  | "echo" => some (echo arguments)
  | "printf" => some (printByFormat arguments)
  | "test" | "[" => some (testCondition name arguments)
  | "cd" | "chdir" => some (changeDirectory arguments)
  | "pwd" => some do
    Act.write 1 (ofText (Path.ofLocation (← get).directory).text ++ "\n")
    Act.finish 0
  | "export" | "readonly" => some (declareAll name arguments)
  | "local" => some (makeLocal arguments)
  | "unset" => some (unset arguments)
  | "set" => some (setArguments arguments)
  | "shift" => some (shiftArguments arguments)
  | "read" => some (readLine arguments)
  | "getopts" => some (getOption arguments)
  | "trap" => some (setTraps arguments)
  | "umask" => some (setMask arguments)
  | "times" => some do
    Act.write 1 "0m0.000000s 0m0.000000s\n0m0.000000s 0m0.000000s\n"
    Act.finish 0
  | "alias" => some (setAliases arguments)
  | "unalias" => some (dropAliases arguments)
  | "wait" => some (awaitJobs arguments)
  | "jobs" => some (Act.finish 0)
  | "bg" | "fg" => some (Act.fault 2 "No current job")
  | "hash" => some (lookUp programs (arguments.filter (· != "-r")))
  | "ulimit" => some do
    if arguments.length ≤ 1 then Act.write 1 "unlimited\n"
    Act.finish 0
  | "break" | "continue" => some do
    let count ← match arguments with
      | [] => pure 1
      | text :: _ => numberOf text
    if count = 0 then Act.fault 2 ("Illegal number: " ++ arguments.head?.getD "")
    let loops := (← get).loops
    Act.finish 0
    if loops ≠ 0 then throw (.leave (min count loops) (name == "continue"))
  | "return" => some do
    match arguments with
    | [] => pure ()
    | text :: _ => Act.finish (← numberOf text)
    throw .back
  | "exit" => some do
    match arguments with
    | [] => pure ()
    | text :: _ => Act.finish (← numberOf text)
    throw .stop
  | "type" => some do
    let session ← get
    let told := arguments.map (typeText session programs)
    Act.write 1 (String.join (told.map fun (text, _) => text ++ "\n"))
    Act.finish (if told.all Prod.snd then 0 else 127)
  | _ => none

end SchemaPress.Shell
