import SchemaPress.Shell.Launch

/-!
# Running commands

What each command does to a session. A command is run by one `step`, which is told how to run the
commands inside it; `execute` ties the two together with a bound for their depth. A function may call
itself only so often, which the shell itself counts, and a loop has a bound for its rounds, so every
script comes to an end.
-/

namespace SchemaPress.Shell

/-! ### Simple commands -/

/-- What a simple command calls. -/
inductive Callee where
  /-- Nothing, where there are no words. -/
  | nothing
  /-- A command of the shell that may end it. -/
  | special
  /-- Another command of the shell. -/
  | builtin
  /-- A function with its body. -/
  | function (body : Command)
  /-- A program. -/
  | program

/-- What a name calls; functions may be passed over. -/
def calleeOf (session : Session) (withFunctions : Bool) (name : String) : Callee :=
  if specialNames.contains name then .special
  else
    match if withFunctions then session.functions.lookup name else none with
    | some body => .function body
    | none => if builtinNames.contains name then .builtin else .program

/-- The most functions that may be at work inside one another. -/
def maxCalls : Nat := 1000

/-- Runs a function. Its arguments are its own; a `return` in it ends it. -/
def callFunction (run : Runner) (body : Command) (arguments : List String) : Act Unit := do
  let before ← get
  if maxCalls ≤ before.calls then
    Act.fault 2 ("Maximum function recursion depth (" ++ toString maxCalls ++ ") reached")
  set { before with
    arguments, loops := 0, calls := before.calls + 1, hidden := [] :: before.hidden }
  -- However the body ends, the function's own variables go first.
  let result ← ExceptT.lift (ExceptT.run (run body))
  let after ← get
  restore (after.hidden.head?.getD [])
  modify fun session => { session with
    arguments := before.arguments, loops := before.loops, calls := before.calls
    hidden := before.hidden }
  match result with
  | .ok _ => return ()
  | .error .back => return ()
  | .error escape => throw escape

/-- The script in a file that a script names. -/
def sourceFile (run : Runner) (arguments : List String) : Act Unit := do
  match arguments with
  | [] => return ()
  | name :: _ =>
    let session ← get
    if !name.toList.contains '/' then Act.fault 2 (name ++ ": not found")
    else
      match session.tree.readBytes (session.path name) with
      | .ok bytes =>
        tryCatch (runScript run (ofBytes bytes)) fun escape =>
          if escape = .back then return () else throw escape
      | .error failure => Act.fault 2 ("cannot open " ++ name ++ ": " ++ refusalText "No such file" failure)

/-- Sends a signal to the shell. -/
def receive (run : Runner) (signal : Nat) : Act Unit := do
  let session ← get
  match session.traps.lookup signal with
  | some action =>
    if signal ≠ 9 && signal ≠ 19 then
      runScript run action
      Act.finish session.status
    else
      set { session with signal := some signal }
      throw .stop
  | none =>
    if isHarmless signal then return ()
    else
      set { session with signal := some signal }
      throw .stop

/-- `kill`. The shell is the only process there is. -/
def sendSignal (run : Runner) (arguments : List String) : Act Unit := do
  match arguments with
  | "-l" :: rest =>
    match rest with
    | [] => Act.write 1 (String.join (signals.map fun (_, name) => name ++ "\n"))
    | text :: _ =>
      match text.toNat? with
      | some n =>
        Act.write 1 (((signals.lookup (if 128 < n then n - 128 else n)).getD (toString n)) ++ "\n")
      | none => Act.write 1 (toString ((signalOf? text).getD 0) ++ "\n")
    Act.finish 0
  | arguments =>
    let (signal, processes) ← killTargets arguments
    if processes.isEmpty then Act.fault 2 killUsage
    Act.finish 0
    processes.forM fun process => do
      match process.toInt? with
      | none =>
        Act.complain ("Illegal number: " ++ process)
        Act.finish 2
        throw .fault
      | some n =>
        if n = (Session.processNumber : Int) || n = 0 then receive run signal
        else
          Act.complain "No such process"
          Act.report ""
          Act.finish 1

/-- Runs a command of the shell. -/
def runBuiltin (run : Runner) (name : String) (arguments : List String) : Act Unit := do
  match name, arguments with
  | "eval", arguments => runScript run (" ".intercalate arguments)
  | ".", arguments => sourceFile run arguments
  | "exec", [] => Act.finish (← get).inner
  | "exec", arguments =>
    if ← runProgram run (arguments.length + 1) arguments then throw .stop
    else
      let name := arguments.head?.getD ""
      let (status, reason) := refusedProgram (← get) name
      Act.complain (name ++ ": " ++ reason)
      Act.finish status
      throw .stop
  | "kill", arguments => sendSignal run arguments
  | "command", "-v" :: name :: _ =>
    match meaning? (← get) programNames name with
    | some text => do
      Act.write 1 (text ++ "\n")
      Act.finish 0
    | none => Act.finish 127
  | "command", "-V" :: name :: _ =>
    let (text, known) := typeText (← get) programNames name
    Act.write 1 (text ++ "\n")
    Act.finish (if known then 0 else 127)
  | name, arguments =>
    match plainBuiltin? programNames name arguments with
    | some act => act
    | none => Act.finish 0

/-- The words of a command without `command` in front, and whether it was there. -/
def withoutCommand : List String → List String × Bool
  | "command" :: "-p" :: rest => ((withoutCommand rest).1, true)
  | "command" :: "--" :: rest => ((withoutCommand rest).1, true)
  | "command" :: "-v" :: rest => ("command" :: "-v" :: rest, false)
  | "command" :: "-V" :: rest => ("command" :: "-V" :: rest, false)
  | "command" :: rest =>
    if rest.isEmpty then (["command"], false) else ((withoutCommand rest).1, true)
  | words => (words, false)

/-- Whether the words found so far name a command that takes assignments as its arguments. -/
def takesAssignments (found : List String) : Bool :=
  match (withoutCommand found).1 with
  | name :: _ => ["export", "readonly", "local"].contains name
  | [] => false

/-- The arguments that words stand for, behind those found so far. Behind the name of a command that
takes assignments, such words stand for one argument each. -/
def expandWords (substitute : Command → Act String) (found : List String) :
    List Word → Act (List String)
  | [] => return found
  | word :: rest => do
    let next ← if takesAssignments found && (assignment? word).isSome then do
        pure [← expandText substitute word]
      else expandFields substitute word
    expandWords substitute (found ++ next) rest

/-- Writes a trace of a command where complaints went before its redirections. -/
def trace (channels : List (Nat × Channel)) (words : List String) : Act Unit := do
  let session ← get
  if session.has 'x' then
    set { session with channels }
    Act.report ((session.value? "PS4").getD "+ " ++ " ".intercalate words)
    modify fun traced => { traced with channels := session.channels }

/-- Calls what the words of a command name. -/
def call (run : Runner) (callee : Callee) (forgives : Bool) (words : List String) : Act Unit := do
  let name := words.head?.getD ""
  let arguments := words.drop 1
  match callee with
  | .nothing => Act.finish (← get).inner
  | .special =>
    let act := Act.as name (runBuiltin run name arguments)
    if forgives then Act.forgiving act else act
  | .builtin => Act.forgiving (Act.as name (runBuiltin run name arguments))
  | .function body => callFunction run body arguments
  | .program =>
    if !(← runProgram run (words.length + 1) words) then
      let (status, reason) := refusedProgram (← get) name
      Act.complain (name ++ ": " ++ reason)
      Act.finish status

/-- Runs a simple command. -/
def runSimple (run : Runner) (line : Nat) (assignments : List (String × Word)) (words : List Word)
    (redirections : List Redirection) : Act Unit := do
  modify fun session => { session with line, inner := 0 }
  let substitute := substituted run
  let found ← expandWords substitute [] words
  -- Behind `command` functions are passed over, and no command ends the shell by a mistake.
  let (plain, direct) := withoutCommand found
  let before ← get
  let callee := match plain with
    | [] => .nothing
    | name :: _ => calleeOf before (!direct) name
  let special := callee matches .special && !direct
  let replaces := plain.head? == some "exec"
  -- An `exec` without a program is called for its redirections, which then stay.
  let keeps := replaces && plain.length = 1
  let openings ← redirections.mapM (expandRedirection substitute)
  let act : Act Unit := do
    if !(← redirect openings) then
      if special then throw .fault
    else
      let values ← assignments.mapM fun (name, word) => do
        return (name, ← expandText substitute word)
      -- In front of a program, a function or another command, assignments hold for its time only.
      let persists := special || callee matches .nothing
      let kept := values.map fun (name, _) => (name, before.bindings.lookup name)
      values.forM fun (name, value) => do
        Act.assign name value
        if !persists || (replaces && !keeps) then
          modify fun session =>
            session.put name { (session.bindings.lookup name).getD {} with exported := true }
      -- The trace goes where complaints went before this command's own redirections.
      let shown := values.map (fun (name, value) => name ++ "=" ++ value) ++ found
      if !shown.isEmpty then trace before.channels shown
      let result ← ExceptT.lift (ExceptT.run (call run callee direct plain))
      if !persists then restore kept
      match result with
      | .ok _ => return ()
      | .error escape => throw escape
  if keeps then act else Act.restoringChannels act

/-! ### Compound commands -/

/-- Runs the commands of a pipeline, each on what the one before it wrote. -/
def runPiped (run : Runner) : List Command → Act Unit
  | [] => return ()
  | [last] => runApart run (run last)
  | first :: rest => do
    let before ← get
    let (session, number) := before.open? ""
    set (session.connect 1 (some (.stream number)))
    runApart run (run first)
    let after ← get
    set ({ after with channels := before.channels }.connect 0 (some (.stream number)))
    runPiped run rest

/-- What a loop does behind a round. -/
inductive Round where
  /-- The next round. -/
  | again
  /-- The end of the loop. -/
  | over
deriving DecidableEq

/-- Does a part of a round, and tells whether the loop goes on. -/
def inRound (act : Act Unit) : Act (Option Round) := do
  tryCatch
    (do
      act
      return none)
    fun escape =>
      match escape with
      | .leave loops again =>
        if loops ≤ 1 then return some (if again then .again else .over)
        else throw (.leave (loops - 1) again)
      | escape => throw escape

/-- The rounds of a loop with a test, whose status is that of its last round. -/
def runRounds (run : Runner) (negated : Bool) (test body : Command) : Nat → Nat → Act Nat
  | 0, status => return status
  | fuel + 1, status => do
    match ← inRound (Act.tested (run test)) with
    | some .over => return status
    | some .again => runRounds run negated test body fuel status
    | none =>
      if ((← get).status = 0) = negated then return status
      else
        match ← inRound (run body) with
        | some .over => return (← get).status
        | _ => runRounds run negated test body fuel (← get).status

/-- The rounds of a loop over words. -/
def runOver (run : Runner) (name : String) (body : Command) : List String → Nat → Act Nat
  | [], status => return status
  | value :: rest, _ => do
    Act.assign name value
    match ← inRound (run body) with
    | some .over => return (← get).status
    | _ => runOver run name body rest (← get).status

/-- Does something inside a loop. -/
def inLoop (act : Act Nat) : Act Unit := do
  modify fun session => { session with loops := session.loops + 1 }
  let result ← ExceptT.lift (ExceptT.run act)
  modify fun session => { session with loops := session.loops - 1 }
  match result with
  | .ok status => Act.finish status
  | .error escape => throw escape

/-- Runs the branch of a choice whose pattern the word fits. -/
def runBranches (run : Runner) (subject : String) : List Branch → Act Unit
  | [] => Act.finish 0
  | .of patterns body :: rest => do
    let fits ← patterns.foldlM
      (fun fits pattern => do
        if fits then return true
        return (← expandPattern (substituted run) pattern).fits subject.toList)
      false
    if fits then
      match body with
      | .nothing => Act.finish 0
      | body => run body
    else runBranches run subject rest

/-- The most rounds that a loop is given. -/
def maxRounds : Nat := 1000000

/-- Runs a command, given how to run those inside it. -/
def step (run : Runner) : Command → Act Unit
  | .nothing => return ()
  | .simple line assignments words redirections => do
    runSimple run line assignments words redirections
    failHard
  | .pipe commands => do
    Act.restoringChannels (runPiped run commands)
    failHard
  | .negation command => do
    Act.tested (run command)
    Act.finish (if (← get).status = 0 then 1 else 0)
  | .both first second => do
    Act.tested (run first)
    if (← get).status = 0 then run second
  | .either first second => do
    Act.tested (run first)
    if (← get).status ≠ 0 then run second
  | .sequence first second => do
    run first
    run second
  | .background command => do
    Act.restoringChannels do
      modify fun session => session.connect 0 (some .nowhere)
      runApart run (run command)
    modify fun session => { session with status := 0, jobs := session.jobs ++ [session.status] }
  | .redirected line command redirections => do
    modify fun session => { session with line }
    let openings ← redirections.mapM (expandRedirection (substituted run))
    Act.restoringChannels do
      if ← redirect openings then run command
  | .subshell line command redirections => do
    modify fun session => { session with line }
    let openings ← redirections.mapM (expandRedirection (substituted run))
    Act.restoringChannels do
      if ← redirect openings then runApart run (run command)
    failHard
  | .conditional test whenTrue whenFalse => do
    Act.tested (run test)
    if (← get).status = 0 then run whenTrue
    else
      match whenFalse with
      | .nothing => Act.finish 0
      | other => run other
  | .loop negated test body => inLoop (runRounds run negated test body maxRounds 0)
  | .each line name words body => do
    modify fun session => { session with line }
    let values ← match words with
      | none => pure (← get).arguments
      | some words => do
        let lists ← words.mapM (expandFields (substituted run))
        pure lists.flatten
    inLoop (runOver run name body values 0)
  | .choice line subject branches => do
    modify fun session => { session with line }
    let text ← expandText (substituted run) subject
    runBranches run text branches
  | .function name body => do
    modify fun session => { session with
      functions := (name, body) :: session.functions.filter fun entry => entry.1 != name }
    Act.finish 0

/-- Runs a command. Commands may be as many levels inside one another as the bound says. -/
def execute : Nat → Runner
  | 0 => fun _ => Act.fault 2 "Too many commands inside one another"
  | fuel + 1 => fun command => step (execute fuel) command

/-- The most levels of commands inside one another. -/
def maxDepth : Nat := 20000

end SchemaPress.Shell
