import SchemaPress.Shell.Expansion
import SchemaPress.Shell.Format

/-!
# Commands for variables

The commands that declare variables, forget them, or read them from the input, and how commands of the
shell read their arguments.
-/

namespace SchemaPress.Shell

/-! ### Arguments -/

/-- The number that an argument writes, which must not be negative. -/
def numberOf (text : String) : Act Nat := do
  let chars := text.toList.dropWhile Sum.isSpace
  let digits := match chars with
    | '+' :: rest => rest
    | chars => chars
  let shown := digits.takeWhile Char.isDigit
  let n := decimalNumber shown
  if shown.isEmpty || 2147483647 < n || !(digits.drop shown.length).all Sum.isSpace then
    Act.fault 2 ("Illegal number: " ++ text)
  else return n

/-- The letters in front of the arguments, which have to be among the given ones. -/
def letters (accepted : String) (fuel : Nat) (arguments : List String) :
    Act (List Char × List String) := do
  match fuel, arguments with
  | 0, arguments => return ([], arguments)
  | _, [] => return ([], [])
  | fuel + 1, argument :: rest =>
    if argument == "--" then return ([], rest)
    else if argument.startsWith "-" && argument.length > 1 then
      let given := argument.toList.drop 1
      match given.find? fun c => !accepted.toList.contains c with
      | some c => Act.fault 2 ("Illegal option -" ++ String.singleton c)
      | none =>
        let (others, rest) ← letters accepted fuel rest
        return (given ++ others, rest)
    else return ([], argument :: rest)

/-- Splits an argument such as `x=1`. -/
def definition (argument : String) : String × Option String :=
  let name := argument.toList.takeWhile (· != '=')
  if name.length < argument.length then
    (String.ofList name, some (String.ofList (argument.toList.drop (name.length + 1))))
  else (argument, none)

/-! ### Variables -/

/-- A value between quotes, so that the shell reads it as it is. -/
def quotedValue (value : String) : String :=
  "'" ++ String.join (value.toList.map fun c => if c == '\'' then "'\"'\"'" else String.singleton c) ++
    "'"

/-- Changes a variable, which may have a value given to it. -/
def declare (change : Variable → Variable) (argument : String) : Act Unit := do
  let (name, value) := definition argument
  if !isName name.toList then Act.fault 2 (name ++ ": bad variable name")
  match value with
  | some value => Act.assign name value
  | none => pure ()
  modify fun session => session.put name (change ((session.bindings.lookup name).getD {}))

/-- `export` and `readonly`. -/
def declareAll (command : String) (arguments : List String) : Act Unit := do
  let isExport := command == "export"
  let (options, names) ← letters "p" (arguments.length + 1) arguments
  Act.finish 0
  if names.isEmpty || options.contains 'p' then
    let session ← get
    let chosen := session.bindings.filter fun (_, entry) =>
      if isExport then entry.exported else entry.fixed
    let lines := chosen.map fun (name, entry) =>
      command ++ " " ++ name ++ (match entry.value with
        | some value => "=" ++ quotedValue value
        | none => "") ++ "\n"
    Act.write 1 (String.join (lines.mergeSort fun a b => decide (a ≤ b)))
  else
    names.forM (declare fun entry =>
      if isExport then { entry with exported := true } else { entry with fixed := true })

/-- `local`. -/
def makeLocal (arguments : List String) : Act Unit := do
  let session ← get
  match session.hidden with
  | [] => Act.fault 2 "not in a function"
  | _ :: _ =>
    Act.finish 0
    arguments.forM fun argument => do
      let (name, value) := definition argument
      if !isName name.toList then Act.fault 2 (name ++ ": bad variable name")
      modify fun session =>
        match session.hidden with
        | [] => session
        | own :: others =>
          let kept := if (own.lookup name).isSome then own
            else (name, session.bindings.lookup name) :: own
          { session with hidden := kept :: others }
      match value with
      | some value => Act.assign name value
      | none => return ()

/-- Puts variables back as they were. -/
def restore (kept : List (String × Option Variable)) : Act Unit :=
  kept.forM fun (name, entry) =>
    modify fun session =>
      match entry with
      | some entry => session.put name entry
      | none => session.drop name

/-- `unset`. -/
def unset (arguments : List String) : Act Unit := do
  let (options, names) ← letters "vf" (arguments.length + 1) arguments
  Act.finish 0
  names.forM fun name => do
    let session ← get
    if options.contains 'f' then
      set { session with functions := session.functions.filter fun entry => entry.1 != name }
    else if !isName name.toList then Act.fault 2 (name ++ ": bad variable name")
    else if ((session.bindings.lookup name).map Variable.fixed).getD false then
      Act.fault 2 (name ++ ": is read only")
    else set (session.drop name)

/-- The rest of a line for `read`, where a backslash keeps the next character unless `raw`; nothing
behind the line is taken. The truth value says whether the line has an end. -/
def lineGlyphs (raw : Bool) : List Char → List Glyph × List Char × Bool
  | [] => ([], [], false)
  | '\n' :: rest => ([], rest, true)
  | '\\' :: '\n' :: rest =>
    if raw then ([.char '\\' false true], rest, true) else lineGlyphs raw rest
  | '\\' :: c :: rest =>
    let (glyphs, left, ended) := lineGlyphs raw rest
    if raw then (.char '\\' false true :: .char c false true :: glyphs, left, ended)
    else (.char c true false :: glyphs, left, ended)
  | c :: rest =>
    let (glyphs, left, ended) := lineGlyphs raw rest
    (.char c false true :: glyphs, left, ended)

/-- The values of the variables that a line is read into: a field for each, and for the last one all
that is left. -/
def shares (separators : List Char) : Nat → List Glyph → List String
  | 0, _ => []
  | 1, glyphs =>
    let isEdge (glyph : Glyph) : Bool := isSoft separators glyph
    let trimmed := (glyphs.reverse.dropWhile isEdge).reverse
    -- A single hard separator at the very end belongs to the field in front of it.
    let body := trimmed.dropLast
    let alone := match trimmed.getLast? with
      | some last => isHard separators last &&
          !body.any fun glyph => isHard separators glyph || isSoft separators glyph
      | none => false
    [spelling (if alone then body else trimmed)]
  | count + 1, glyphs =>
    let field := glyphs.takeWhile fun glyph =>
      !isSoft separators glyph && !isHard separators glyph
    let rest := glyphs.drop field.length
    let rest := match rest with
      | glyph :: behind =>
        if isHard separators glyph then behind.dropWhile (isSoft separators)
        else behindSoft separators rest
      | [] => []
    spelling field :: shares separators count rest

/-- The arguments of `read` behind its options, and whether backslashes are taken as they are. -/
def readOptions (raw : Bool) : List String → Bool × List String
  | "-r" :: rest => readOptions true rest
  | "-p" :: _ :: rest => readOptions raw rest
  | "--" :: rest => (raw, rest)
  | rest => (raw, rest)

/-- `read`. -/
def readLine (arguments : List String) : Act Unit := do
  let (raw, names) := readOptions false arguments
  if names.isEmpty then Act.fault 2 "arg count"
  match names.find? fun name => !isName name.toList with
  | some name => Act.fault 2 (name ++ ": bad variable name")
  | none => pure ()
  let session ← get
  let (glyphs, rest, ended) := lineGlyphs raw (session.readable 0).toList
  set (session.leave 0 (String.ofList rest))
  let separators := session.separators
  let values := shares separators names.length (glyphs.dropWhile (isSoft separators))
  (names.zip values).forM fun (name, value) => Act.assign name value
  Act.finish (if ended then 0 else 1)

end SchemaPress.Shell
