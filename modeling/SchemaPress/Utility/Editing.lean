import SchemaPress.Utility.Search

/-!
# Editing lines

`sed`. A script is a list of commands, each for some of the lines. Every line goes through all of them,
and what they print comes in front of it or behind it.
-/

namespace SchemaPress.Utility

/-- Which lines a command of `sed` is for. -/
inductive Address where
  /-- The line of this number. -/
  | line (number : Nat)
  /-- The line of the first number, and each one that many lines behind it. -/
  | steps (number step : Nat)
  /-- The last line. -/
  | last
  /-- The lines that an expression fits. -/
  | fits (regex : Regex)

/-- What a command of `sed` does. -/
inductive Edit where
  /-- Puts a text in place of what an expression fits: each time or once from the given time on, and
  prints the line if asked for. -/
  | replace (regex : Regex) (text : List Char) (every : Bool) (time : Nat) (printed ignoreCase : Bool)
  /-- Puts other bytes in place of bytes. -/
  | exchange (source target : List Char)
  /-- Drops the line. -/
  | delete
  /-- Prints the line. -/
  | print
  /-- Ends with this line. -/
  | quit
  /-- Prints the number of the line. -/
  | number
  /-- Prints a text in front of the line. -/
  | insert (text : String)
  /-- Prints a text behind the line. -/
  | append (text : String)
  /-- Prints a text in place of the line, or of several lines at the last of them. -/
  | change (text : String)

/-- Why a script cannot be read. -/
structure Blunder where
  /-- What is wrong. -/
  reason : String
  /-- The number of characters behind the place where it becomes clear. -/
  left : Nat := 0

/-- A command of `sed`. -/
structure SedCommand where
  /-- The first line that it is for; every line if there is none. -/
  first : Option Address := none
  /-- The last line that it is for, if it is for several lines. -/
  second : Option Address := none
  /-- Whether it is for all other lines. -/
  negated : Bool := false
  /-- What it does. -/
  edit : Edit

/-- The text up to a closing sign, in which a backslash keeps the sign, and what is behind it. -/
def upTo? (closing : Char) : List Char → Option (List Char × List Char)
  | [] => none
  | '\\' :: c :: rest => do
    let (text, rest) ← upTo? closing rest
    return (if c == closing then c :: text else '\\' :: c :: text, rest)
  | c :: rest => do
    if c == closing then return ([], rest)
    let (text, rest) ← upTo? closing rest
    return (c :: text, rest)

/-- An expression that a script has in front of other text. -/
def expression (extended : Bool) (pattern behind : List Char) : Except Blunder Regex :=
  (Regex.parse extended (String.ofList pattern)).mapError fun reason => ⟨reason, behind.length⟩

/-- The address at the front of a command, and what is behind it. -/
def address? (extended : Bool) (chars : List Char) :
    Except Blunder (Option Address × List Char) := do
  match chars with
  | '$' :: rest => return (some .last, rest)
  | '/' :: rest =>
    match upTo? '/' rest with
    | some (pattern, rest) => return (some (.fits (← expression extended pattern rest)), rest)
    | none => throw { reason := "unterminated address regex" }
  | chars =>
    let digits := chars.takeWhile Char.isDigit
    let number := Shell.decimalNumber digits
    if digits.isEmpty then return (none, chars)
    else
      match chars.drop digits.length with
      | '~' :: rest =>
        let step := rest.takeWhile Char.isDigit
        return (some (.steps number (Shell.decimalNumber step)), rest.drop step.length)
      | rest => return (some (.line number), rest)

/-- Two texts, each with the sign behind it that is in front of the first one, and what is behind
them. -/
def twoTexts (command sign : Char) (chars : List Char) :
    Except Blunder (List Char × List Char × List Char) :=
  match upTo? sign chars with
  | none => throw { reason := "unterminated \x60" ++ String.singleton command ++ "' command" }
  | some (first, rest) =>
    match upTo? sign rest with
    | none => throw { reason := "unterminated \x60" ++ String.singleton command ++ "' command" }
    | some (second, rest) => .ok (first, second, rest)

/-- Text up to the end of a line that no backslash keeps, and what is behind it. -/
def plainText : List Char → List Char × List Char
  | [] => ([], [])
  | '\n' :: rest => ([], rest)
  | '\\' :: c :: rest =>
    let (text, rest) := plainText rest
    (c :: text, rest)
  | c :: rest =>
    let (text, rest) := plainText rest
    (c :: text, rest)

/-- The text that a command prints, and what is behind it. It may begin on a line of its own. -/
def printedText (chars : List Char) : Except Blunder (String × List Char) := do
  let isBlank (c : Char) : Bool := c == ' ' || c == '\t'
  let (text, rest) := match chars.dropWhile isBlank with
    | '\\' :: behind =>
      match behind.dropWhile isBlank with
      | '\n' :: behind => plainText behind
      | _ => plainText behind
    | chars => plainText chars
  if text.isEmpty then throw { reason := "expected \\ after \x60a', \x60c' or \x60i'" }
  return (String.ofList text, rest)

/-- The rest of a script behind a command, which only a separator may follow. -/
def behindCommand (chars : List Char) : Except Blunder (List Char) :=
  match chars.dropWhile fun c => c == ' ' || c == '\t' with
  | [] => .ok []
  | c :: rest =>
    if c == ';' || c == '\n' || c == '#' then .ok (c :: rest)
    else throw ⟨"extra characters after command", rest.length⟩

/-- The edit at the front of a text, and what is behind it. -/
def edit? (extended : Bool) (chars : List Char) : Except Blunder (Edit × List Char) := do
  match chars with
  | 'd' :: rest => return (.delete, ← behindCommand rest)
  | 'p' :: rest => return (.print, ← behindCommand rest)
  | 'q' :: rest => return (.quit, ← behindCommand rest)
  | '=' :: rest => return (.number, ← behindCommand rest)
  | 'i' :: rest =>
    let (text, rest) ← printedText rest
    return (.insert text, rest)
  | 'a' :: rest =>
    let (text, rest) ← printedText rest
    return (.append text, rest)
  | 'c' :: rest =>
    let (text, rest) ← printedText rest
    return (.change text, rest)
  | 's' :: sign :: rest =>
    let (pattern, text, rest) ← twoTexts 's' sign rest
    let flags := rest.takeWhile fun c => c.isDigit || "gpiI".toList.contains c
    let rest := rest.drop flags.length
    match rest with
    | c :: behind =>
      if c.isAlphanum then throw ⟨"unknown option to \x60s'", behind.length⟩
    | [] => pure ()
    let digits := flags.filter Char.isDigit
    return (.replace (← expression extended pattern rest) text (flags.contains 'g')
      (if digits.isEmpty then 1 else Shell.decimalNumber digits) (flags.contains 'p')
      (flags.contains 'i' || flags.contains 'I'), ← behindCommand rest)
  | 'y' :: sign :: rest =>
    let (source, target, rest) ← twoTexts 'y' sign rest
    if source.length ≠ target.length then
      throw ⟨"strings for \x60y' command are different lengths", rest.length⟩
    return (.exchange source target, ← behindCommand rest)
  | ['s'] => throw { reason := "unterminated \x60s' command" }
  | ['y'] => throw { reason := "unterminated \x60y' command" }
  | [] => throw { reason := "missing command" }
  | c :: rest => throw ⟨"unknown command: \x60" ++ String.singleton c ++ "'", rest.length⟩

/-- The commands of a script for `sed`. -/
def sedCommands? (extended : Bool) (fuel : Nat) (chars : List Char) : Except Blunder (List SedCommand) := do
  match fuel with
  | 0 => return []
  | fuel + 1 =>
    let chars := chars.dropWhile fun c => c == ' ' || c == ';' || c == '\n' || c == '\t'
    if chars.isEmpty then return []
    else if chars.head? == some '#' then sedCommands? extended fuel (chars.dropWhile (· != '\n'))
    else
      let (first, chars) ← address? extended chars
      let (second, chars) ← match chars with
        | ',' :: rest => address? extended rest
        | chars => pure (none, chars)
      let chars := chars.dropWhile (· == ' ')
      let (negated, chars) := match chars with
        | '!' :: rest => (true, rest.dropWhile (· == ' '))
        | chars => (false, chars)
      let (edit, rest) ← edit? extended chars
      return { first, second, negated, edit } :: (← sedCommands? extended fuel rest)

/-- The text that is put in place of a fit. -/
def replacement (fit : Fit) (whole : List Char) : List Char → List Char
  | '\\' :: 'n' :: rest => '\n' :: replacement fit whole rest
  | '\\' :: 't' :: rest => '\t' :: replacement fit whole rest
  | '\\' :: c :: rest =>
    if c.isDigit then
      let kept := if c == '0' then whole else (fit.texts.lookup (c.toNat - '0'.toNat)).getD []
      kept ++ replacement fit whole rest
    else c :: replacement fit whole rest
  | '&' :: rest => whole ++ replacement fit whole rest
  | c :: rest => c :: replacement fit whole rest
  | [] => []

/-- A line with texts put in place of fits, and whether there was any. A fit of nothing that is
`joined` to the fit in front of it does not count. -/
def replaced (regex : Regex) (text : List Char) (every ignoreCase : Bool) (fuel time : Nat)
    (joined : Bool) (before rest : List Char) : List Char × Bool :=
  match fuel with
  | 0 => (rest, false)
  | fuel + 1 =>
    match regex.search ignoreCase before rest with
    | none => (rest, false)
    | some (front, fit) =>
      let skipped := (front.take (front.length - before.length)).reverse
      let size := fit.before.length - front.length
      if size = 0 && joined && skipped.isEmpty then
        match rest with
        | [] => ([], false)
        | c :: behind =>
          let (others, changed) :=
            replaced regex text every ignoreCase fuel time false (c :: before) behind
          (c :: others, changed)
      else
        let whole := (fit.before.take size).reverse
        let put := if 1 < time then whole else replacement fit whole text
        let done := time ≤ 1 && !every
        let go (joined : Bool) (before rest : List Char) : List Char × Bool :=
          if done then (rest, true)
          else replaced regex text every ignoreCase fuel (time - 1) joined before rest
        if size = 0 then
          match fit.after with
          | [] => (skipped ++ put, time ≤ 1)
          | c :: after =>
            let (others, changed) := go false (c :: fit.before) after
            (skipped ++ put ++ c :: others, changed || time ≤ 1)
        else
          let (others, changed) := go true fit.before fit.after
          (skipped ++ put ++ others, changed || time ≤ 1)

/-- A line that `sed` works on. -/
structure SedLine where
  /-- The line. -/
  line : List Char
  /-- What was printed in front of it, the last line first. -/
  printed : List String := []
  /-- What is printed behind it, the last line first. -/
  behind : List String := []
  /-- Whether the line is dropped. -/
  dropped : Bool := false
  /-- Whether it is the last one to be dealt with. -/
  ended : Bool := false

/-- Whether an address is that of a line. -/
def Address.isOf (number total : Nat) (line : List Char) : Address → Bool
  | .line n => n = number
  | .steps n step => n ≤ number && (if step = 0 then n = number else (number - n) % step = 0)
  | .last => number = total
  | .fits regex => (regex.search false [] line).isSome

/-- Whether a command is for a line, and whether it is for the next lines as well; `opened` says that it
was for the line in front. -/
def SedCommand.applies (command : SedCommand) (opened : Bool) (number total : Nat) (line : List Char) :
    Bool × Bool :=
  match command.first, command.second with
  | none, _ => (!command.negated, false)
  | some first, none => (first.isOf number total line != command.negated, false)
  | some first, some second =>
    if opened then (!command.negated, !second.isOf number total line)
    else if first.isOf number total line then
      let single := match second with
        | .line n => n ≤ number
        | _ => false
      (!command.negated, !single)
    else (command.negated, false)

/-- Carries an edit out. -/
def Edit.apply (edit : Edit) (number : Nat) (work : SedLine) : SedLine :=
  match edit with
  | .delete => { work with dropped := true }
  | .print => { work with printed := String.ofList work.line :: work.printed }
  | .number => { work with printed := toString number :: work.printed }
  | .quit => { work with ended := true }
  | .insert text => { work with printed := text :: work.printed }
  | .append text => { work with behind := text :: work.behind }
  | .change text => { work with dropped := true, printed := text :: work.printed }
  | .exchange source target =>
    { work with line := work.line.map fun c =>
        match source.idxOf? c with
        | some n => target[n]?.getD c
        | none => c }
  | .replace regex text every time printed ignoreCase =>
    let (line, changed) := replaced regex text every ignoreCase (2 * work.line.length + 2) time false []
      work.line
    let work := { work with line }
    if changed && printed then { work with printed := String.ofList line :: work.printed } else work

/-- The text of lines after the commands of `sed`. -/
def sedLines (commands : List SedCommand) (silent : Bool) (total : Nat) (opened : List Bool) :
    Nat → List String → String
  | _, [] => ""
  | number, line :: rest =>
    let ending := if line.endsWith "\n" then "\n" else ""
    let (work, opened) := (commands.zip opened).foldl
      (fun (state : SedLine × List Bool) (command, opened) =>
        let (work, later) := state
        if work.dropped || work.ended then (work, later ++ [opened])
        else
          let (applies, next) := command.applies opened number total work.line
          let work := if !applies then work
            else if next && (command.edit matches .change _) then { work with dropped := true }
            else command.edit.apply number work
          (work, later ++ [next]))
      ({ line := (bareLine line).toList }, [])
    let printed := String.join (work.printed.reverse.map (· ++ "\n"))
    let behind := String.join (work.behind.reverse.map (· ++ "\n"))
    -- A line without an end gets one if something is printed behind it.
    let ending := if behind.isEmpty then ending else "\n"
    let own := if silent || work.dropped then "" else String.ofList work.line ++ ending
    if work.ended then printed ++ own ++ behind
    else printed ++ own ++ behind ++ sedLines commands silent total opened (number + 1) rest

/-- `sed`. -/
def sed (arguments : List String) : Job Unit := do
  let parsed ← argumentsOf
    { plain := "nErizsu", valued := "e"
      long := [("quiet", 'n'), ("silent", 'n'), ("expression", 'e'), ("regexp-extended", 'E'),
        ("in-place", 'i')] } arguments
  let given := (parsed.options.filter fun option => option.1 == 'e').map Prod.snd
  let (script, names) := match given, parsed.operands with
    | [], script :: names => (script, names)
    | given, names => ("\n".intercalate given, names)
  let extended := parsed.has 'E' || parsed.has 'r'
  match sedCommands? extended (script.length + 1) script.toList with
  | .error blunder =>
    Job.giveUp 1 ("-e expression #1, char " ++ toString (script.length - blunder.left) ++ ": " ++
      blunder.reason)
  | .ok commands =>
    let work (text : String) : String :=
      let lines := linesOf text
      sedLines commands (parsed.has 'n') lines.length (commands.map fun _ => false) 1 lines
    if parsed.has 'i' then
      names.forM fun name => do
        match ← contents
            (fun reason => Job.complain 2 ("can't read " ++ name ++ ": " ++ reason)) name with
        | none => return ()
        | some text =>
          match (← get).tree.find (← Job.pathOf name) with
          | .ok (place, _) =>
            Job.setTree ((← get).tree.set place (.file ⟨(Shell.toBytes (work text)).toArray⟩))
          | .error _ => return ()
    else
      let names := if names.isEmpty then ["-"] else names
      let texts ← names.mapM fun name => do
        let refuse (reason : String) : Job Unit :=
          if reason == Refusal.isDirectory.reason then
            Job.complain 2 ("couldn't read " ++ name ++ ": " ++ reason)
          else Job.complain 2 ("can't read " ++ name ++ ": " ++ reason)
        return (← contents refuse name).getD ""
      Job.say (work (String.join texts))

end SchemaPress.Utility
