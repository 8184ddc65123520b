import SchemaPress.Shell.Builtin

/-!
# Running scripts

A script is read and run line by line. What runs the commands in it is a parameter here, a `Runner`. A
subshell starts with all that the shell knows and gives back the files and what was written.
-/

namespace SchemaPress.Shell

/-- Runs a command inside another one. -/
abbrev Runner := Command → Act Unit

/-- Does something that a test depends on. -/
def Act.tested (act : Act Unit) : Act Unit := do
  let before := (← get).tested
  ExceptT.mk do
    modify fun session => { session with tested := true }
    let result ← ExceptT.run act
    modify fun session => { session with tested := before }
    return result

/-- Ends the shell after a failure, if that option is set and nothing depends on the status. -/
def failHard : Act Unit := do
  let session ← get
  if session.status ≠ 0 && session.has 'e' && !session.tested then throw .stop

/-- Runs the rest of a script, line by line. -/
def runLines (run : Runner) (fuel : Nat) (source : Source) : Act Unit := do
  match fuel with
  | 0 => return ()
  | fuel + 1 =>
    let session ← get
    match { source with
        aliases := session.aliases, documents := session.documents
        nextDocument := session.nextDocument }.nextLine with
    | .error misreading =>
      modify fun session => { session with line := misreading.line }
      Act.fault 2 ("Syntax error: " ++ misreading.reason)
    | .ok (none, _) => return ()
    | .ok (some command, rest) =>
      modify fun session => { session with
        documents := rest.documents, nextDocument := rest.nextDocument }
      if !session.has 'n' then run command
      runLines run fuel rest

/-- Runs a script. -/
def runScript (run : Runner) (script : String) : Act Unit := do
  Act.finish 0
  runLines run (script.length + 2) { chars := script.toList }

/-- Does what is to be done at the end of a shell, however it ends. -/
def withFarewell (run : Runner) (act : Act Unit) : Act Unit := do
  let result ← (tryCatch (do act; return none) fun escape => return some escape : Act (Option Escape))
  let session ← get
  match session.traps.lookup 0 with
  | some action =>
    if session.signal.isNone then
      let status := session.status
      set { session with traps := session.traps.filter fun entry => entry.1 != 0 }
      let farewell ← (tryCatch (do runScript run action; return none) fun escape =>
        return some escape : Act (Option Escape))
      if farewell ≠ some .stop && farewell ≠ some .fault then Act.finish status
  | none => pure ()
  if result = some .fault || result = some .stop then throw .stop

/-- Runs something in a shell of its own, which leaves this one as it is. -/
def runApart (run : Runner) (act : Act Unit) : Act Unit := do
  let before ← get
  Act.apart do
    modify fun session => { session with traps := session.traps.filter fun entry => entry.2.isEmpty }
    withFarewell run act
    return ()
  if before.signal.isNone && (← get).signal.isSome then throw .stop

/-- The output of a command. -/
def substituted (run : Runner) (command : Command) : Act String := do
  let before ← get
  let (session, number) := before.open? ""
  set (session.connect 1 (some (.stream number)))
  runApart run do
    modify fun session => { session with tested := false }
    run command
  let after ← get
  let text := after.streams[number]?.getD ""
  set { after with
    channels := before.channels, status := before.status, inner := after.status,
    streams := after.streams.pop }
  return text

end SchemaPress.Shell
