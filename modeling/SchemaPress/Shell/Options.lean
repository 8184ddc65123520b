import SchemaPress.Shell.Variables

/-!
# Commands for options and arguments

The options of a shell and their names, and the commands that change the options or the arguments, or
take the arguments apart.
-/

namespace SchemaPress.Shell

/-- The options with their names. -/
def optionNames : List (String × Char) :=
  [("errexit", 'e'), ("noglob", 'f'), ("ignoreeof", 'I'), ("interactive", 'i'), ("monitor", 'm'),
   ("noexec", 'n'), ("stdin", 's'), ("xtrace", 'x'), ("verbose", 'v'), ("vi", 'V'), ("emacs", 'E'),
   ("noclobber", 'C'), ("allexport", 'a'), ("notify", 'b'), ("nounset", 'u'), ("privileged", 'p'),
   ("nolog", ' '), ("debug", ' ')]

/-- Sets an option or takes it back. -/
def setOption (option : Char) (on : Bool) : Act Unit :=
  modify fun session =>
    let others := session.options.filter (· != option)
    { session with options := if on then option :: others else others }

/-- The table of options. -/
def optionTable (session : Session) : String :=
  "Current option settings\n" ++ String.join (optionNames.map fun (name, letter) =>
    name ++ String.ofList (List.replicate (16 - name.length) ' ') ++
      (if session.has letter then "on" else "off") ++ "\n")

/-- Options in front of the arguments of `set`, and the arguments behind them, if there are any. -/
def setOptions (fuel : Nat) (arguments : List String) : Act (Option (List String)) := do
  match fuel, arguments with
  | 0, _ => return none
  | _, [] => return none
  | fuel + 1, argument :: rest =>
    match argument.toList with
    | ['-', '-'] => return some rest
    | ['-'] => do
      setOption 'x' false
      setOption 'v' false
      return if rest.isEmpty then none else some rest
    | sign :: given =>
      if sign == '-' || sign == '+' then
        let on := sign == '-'
        let named := given.contains 'o'
        given.forM fun c =>
          if c == 'o' then return ()
          else if (optionNames.map Prod.snd).contains c && c != ' ' then setOption c on
          else Act.fault 2 ("Illegal option -" ++ String.singleton c)
        if named then
          match rest with
          | [] => do
            Act.write 1 (optionTable (← get))
            return none
          | name :: rest =>
            match optionNames.lookup name with
            | some letter => do
              setOption letter on
              setOptions fuel rest
            | none => Act.fault 2 ("Illegal option -o " ++ name)
        else setOptions fuel rest
      else return some (argument :: rest)
    | [] => return some (argument :: rest)

/-- `set`. -/
def setArguments (arguments : List String) : Act Unit := do
  Act.finish 0
  if arguments.isEmpty then
    let lines := (← get).bindings.filterMap fun (name, entry) =>
      entry.value.map fun value => name ++ "=" ++ quotedValue value ++ "\n"
    Act.write 1 (String.join (lines.mergeSort fun a b => decide (a ≤ b)))
  else
    match ← setOptions (arguments.length + 1) arguments with
    | some arguments => modify fun session => { session with arguments }
    | none => return ()

/-- `shift`. -/
def shiftArguments (arguments : List String) : Act Unit := do
  let count ← match arguments with
    | [] => pure 1
    | text :: _ => numberOf text
  let session ← get
  if session.arguments.length < count then Act.fault 2 "can't shift that many"
  else set { session with arguments := session.arguments.drop count, status := 0 }

/-- `getopts`. The place within an argument with several letters is kept in a variable of its own. -/
def getOption (arguments : List String) : Act Unit := do
  match arguments with
  | accepted :: name :: given => do
    let session ← get
    let given := if given.isEmpty then session.arguments else given
    let index := ((session.value? "OPTIND").bind String.toNat?).getD 1
    let place := ((session.value? " place").bind String.toNat?).getD 1
    let silent := accepted.startsWith ":"
    let finish (index place : Nat) (letter : String) (value : Option String) (status : Nat) :
        Act Unit := do
      modify fun session => session.put " place" { value := some (toString place) }
      Act.assign "OPTIND" (toString index)
      Act.assign name letter
      match value with
      | some value => Act.assign "OPTARG" value
      | none => modify fun session => session.drop "OPTARG"
      Act.finish status
    match given[index - 1]? with
    | none => finish index 1 "?" none 1
    | some argument =>
      if argument == "--" then finish (index + 1) 1 "?" none 1
      else if !argument.startsWith "-" || argument.length = 1 then finish index 1 "?" none 1
      else
        match argument.toList[place]? with
        | none => finish index 1 "?" none 1
        | some c =>
          let (nextIndex, nextPlace) :=
            if place + 1 < argument.length then (index, place + 1) else (index + 1, 1)
          match (accepted.toList.dropWhile (· == ':')).idxOf? c with
          | none =>
            if silent then finish nextIndex nextPlace "?" (some (String.singleton c)) 0
            else
              Act.report ("Illegal option -" ++ String.singleton c)
              finish nextIndex nextPlace "?" none 0
          | some n =>
            if (accepted.toList.dropWhile (· == ':'))[n + 1]? = some ':' then
              if place + 1 < argument.length then
                finish (index + 1) 1 (String.singleton c)
                  (some (String.ofList (argument.toList.drop (place + 1)))) 0
              else
                match given[index]? with
                | some value => finish (index + 2) 1 (String.singleton c) (some value) 0
                | none =>
                  if silent then finish (index + 1) 1 ":" (some (String.singleton c)) 0
                  else
                    Act.report ("No arg for -" ++ String.singleton c ++ " option")
                    finish (index + 1) 1 "?" none 0
            else finish nextIndex nextPlace (String.singleton c) none 0
  | _ => Act.fault 2 "Usage: getopts optstring var [arg...]"

end SchemaPress.Shell
