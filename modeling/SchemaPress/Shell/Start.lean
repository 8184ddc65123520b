import SchemaPress.Files.Text
import SchemaPress.Shell.Script

/-!
# Starting shells

How a shell that is started by its name reads its arguments, what its variables are at first, and
where its script comes from.
-/

namespace SchemaPress.Shell

/-- The letters that a shell takes as options, besides the one that announces a script. -/
def shellLetters : List Char := "aefnuvxIimsbCVEp".toList

/-- A shell that is started by its name. -/
structure Start where
  /-- The options. -/
  options : List Char := []
  /-- Whether the first operand is a script. -/
  command : Bool := false
  /-- The arguments behind the options. -/
  operands : List String := []
  /-- What is wrong with the options. -/
  failure : Option String := none

/-- The options of a shell. -/
def startOf (fuel : Nat) (start : Start) (arguments : List String) : Start :=
  match fuel, arguments with
  | 0, _ => start
  | _, [] => start
  | fuel + 1, argument :: rest =>
    match argument.toList with
    | ['-'] => { start with operands := rest }
    | ['-', '-'] => { start with operands := rest }
    | sign :: given =>
      if sign == '-' || sign == '+' then
        let named := given.contains 'o'
        let given := given.filter (· != 'o')
        match given.find? fun c => !(c == 'c' && sign == '-') && !shellLetters.contains c with
        | some c => { start with failure := some ("Illegal option -" ++ String.singleton c) }
        | none =>
          let letters := given.filter (· != 'c')
          let options := if sign == '-' then letters ++ start.options
            else start.options.filter (!letters.contains ·)
          let start := { start with options, command := start.command || given.contains 'c' }
          if named then
            match rest with
            | [] => { start with failure := some "Illegal option -o" }
            | name :: rest =>
              match optionNames.lookup name with
              | some letter =>
                startOf fuel { start with
                  options := if sign == '-' then letter :: start.options
                    else start.options.filter (· != letter) } rest
              | none => { start with failure := some ("Illegal option -o " ++ name) }
          else startOf fuel start rest
      else { start with operands := argument :: rest }
    | [] => { start with operands := argument :: rest }

/-- Runs a shell with its arguments in the session that is made for it, where it starts by telling its
working directory to the programs that it will start. -/
def runShell (run : Runner) (name : String) (arguments : List String) : Act Unit := do
  let start := startOf (arguments.length + 1) {} arguments
  modify fun session => session.put "PWD"
    { value := some (ofText (Path.ofLocation session.directory).text), exported := true }
  let refused (status : Nat) (text : String) : Act Unit := do
    modify fun session => { session with name, line := 0, command := none }
    Act.fault status text
  match start.failure, start.command, start.operands with
  | some reason, _, _ => refused 2 reason
  | none, true, [] => refused 2 "-c requires an argument"
  | none, true, script :: operands =>
    let (name, operands) := match operands with
      | [] => (name, [])
      | name :: operands => (name, operands)
    modify fun session => { session with name, arguments := operands, options := start.options }
    withFarewell run (runScript run script)
  | none, false, [] =>
    modify fun session => { session with name, options := 's' :: start.options }
    let session ← get
    set (session.leave 0 "")
    withFarewell run (runScript run (session.readable 0))
  | none, false, file :: operands =>
    let session ← get
    match session.tree.readBytes (session.path file) with
    | .ok bytes =>
      modify fun session => { session with name := file, arguments := operands, options := start.options }
      withFarewell run (runScript run (ofBytes bytes))
    | .error _ => refused 2 ("cannot open " ++ file ++ ": No such file")

/-- Where a shell looks for programs if it is not told. -/
def usualPath : String :=
  "/usr/local/sbin:/usr/local/bin:/usr/sbin:/usr/bin:/sbin:/bin"

/-- The variables of a shell that has just been started with an environment. The separators are never
taken from there. -/
def firstVariables (environment : List (String × String)) : List (String × Variable) :=
  let own := [("IFS", " \t\n"), ("OPTIND", "1"), ("PATH", usualPath), ("PS1", "# "), ("PS2", "> "),
    ("PS4", "+ ")]
  let missing := own.filter fun (name, _) => (environment.lookup name).isNone || name == "IFS"
  (environment.filter fun (name, _) => name != "IFS").map
    (fun (name, value) => (name, { value := some value, exported := true })) ++
    missing.map fun (name, value) => (name, { value := some value })

/-- Runs a shell as a program of its own. -/
def runInnerShell (run : Runner) (arguments : List String) : Act Unit := do
  let session ← get
  let inner : Session :=
    { session with
      arguments := [], bindings := firstVariables session.environment, hidden := []
      functions := [], aliases := [], options := [], traps := [], status := 0, line := 1
      command := none, loops := 0, calls := 0, jobs := [], tested := false }
  let (_, inner) := (ExceptT.run (runShell run "sh" arguments)).run inner
  let after := { session.after inner with signal := session.signal }
  match inner.signal with
  | none => set after
  | some signal =>
    set { after with status := 128 + signal }
    if signalText signal != "" then Act.report (signalText signal)

end SchemaPress.Shell
