import SchemaPress.Utility.Lines
import SchemaPress.Utility.Regex

/-!
# Searching for lines

`grep`, and the fits of an expression in a line, from the left to the right and none overlapping
another.
-/

namespace SchemaPress.Utility

/-- The fits of an expression in a line, each as what is in front of it and its text. -/
def allFits (ignoreCase : Bool) (regex : Regex) (fuel : Nat) (before rest : List Char) :
    List (List Char × List Char) :=
  match fuel with
  | 0 => []
  | fuel + 1 =>
    match regex.search ignoreCase before rest with
    | none => []
    | some (front, fit) =>
      let size := fit.before.length - front.length
      let text := (fit.before.take size).reverse
      if size = 0 then
        match fit.after with
        | [] => []
        | c :: after => allFits ignoreCase regex fuel (c :: fit.before) after
      else (front, text) :: allFits ignoreCase regex fuel fit.before fit.after

/-- The paths of the files at and below a path; the path itself if there is nothing. -/
def filesBelow (name : String) : Job (List String) := do
  let tree := (← get).tree
  match ← entryAt true name with
  | .ok (location, _) =>
    return (pathsBelow tree (tree.entries.length + 2) location name).filterMap fun (path, entry) =>
      if entry matches .file _ then some path else none
  | .error _ => return [name]

/-- `grep`. -/
def grep (arguments : List String) : Job Unit := do
  let parsed ← argumentsOf
    { plain := "qcnvilLFEGowxhHsrR", valued := "em", failure := 2
      long := [("quiet", 'q'), ("count", 'c'), ("line-number", 'n'), ("invert-match", 'v'),
        ("ignore-case", 'i'), ("files-with-matches", 'l'), ("fixed-strings", 'F'),
        ("extended-regexp", 'E'), ("only-matching", 'o'), ("regexp", 'e'), ("no-messages", 's'), ("recursive", 'r')] }
    arguments
  let given := (parsed.options.filter fun option => option.1 == 'e').map Prod.snd
  let (patterns, names) := match given, parsed.operands with
    | [], pattern :: names => ([pattern], names)
    | given, names => (given, names)
  if patterns.isEmpty then
    modify fun desk => { desk with
      errors := desk.errors ++ "Usage: grep [OPTION]... PATTERNS [FILE]...\n" ++
        "Try 'grep --help' for more information.\n"
      status := 2 }
    Job.stop
  let regexes ← (patterns.flatMap fun pattern => pattern.splitOn "\n").mapM fun pattern => do
    if parsed.has 'F' then return Regex.ofText pattern
    else
      match Regex.parse (parsed.has 'E') pattern with
      | .ok regex => return regex
      | .error reason => Job.giveUp 2 reason
  let regex := match regexes with
    | [] => .empty
    | first :: rest => rest.foldl Regex.either first
  -- Whole lines are asked for by tying the expression to both ends.
  let regex := if parsed.has 'x' then .both .start (.both regex .stop) else regex
  let ignoreCase := parsed.has 'i'
  let isWordByte (c : Char) : Bool := c.isAlphanum || c == '_'
  let fitsLine (line : String) : Bool :=
    if parsed.has 'w' then
      (allFits ignoreCase regex (line.length + 1) [] line.toList).any fun (before, text) =>
        !(before.head?.any isWordByte) &&
          !((line.toList.drop (before.length + text.length)).head?.any isWordByte)
    else (regex.search ignoreCase [] line.toList).isSome
  let recursive := parsed.has 'r' || parsed.has 'R'
  let given := names
  let names ← if recursive then do
      let lists ← (if names.isEmpty then ["."] else names).mapM filesBelow
      pure lists.flatten
    else pure (if names.isEmpty then ["-"] else names)
  let names := if given.isEmpty && recursive then names.map (String.ofList <| ·.toList.drop 2) else names
  let withNames := (1 < names.length || recursive || parsed.has 'H') && !parsed.has 'h'
  let found ← names.mapM fun name => do
    let refuse (reason : String) : Job Unit :=
      if parsed.has 's' then modify fun desk => { desk with status := 2 }
      else Job.complain 2 (name ++ ": " ++ reason)
    match ← contents refuse name with
    | none => return false
    | some text =>
      let lines := ((wholeLines text).zipIdx 1).filter fun (line, _) => fitsLine line != parsed.has 'v'
      let lines := match (parsed.value? 'm').bind count? with
        | some most => lines.take most
        | none => lines
      let title := if name == "-" then "(standard input)" else name
      let front := if withNames then title ++ ":" else ""
      if parsed.has 'q' then pure ()
      else if parsed.has 'l' then (if lines.isEmpty then pure () else Job.sayLine title)
      else if parsed.has 'L' then (if lines.isEmpty then Job.sayLine title else pure ())
      else if parsed.has 'c' then Job.sayLine (front ++ toString lines.length)
      else
        lines.forM fun (line, n) => do
          let front := front ++ if parsed.has 'n' then toString n ++ ":" else ""
          if parsed.has 'o' then
            (allFits ignoreCase regex (line.length + 1) [] line.toList).forM fun (_, text) =>
              Job.sayLine (front ++ String.ofList text)
          else Job.sayLine (front ++ line)
      return !lines.isEmpty
  -- Found is 0 and not found is 1, but failures come first unless nothing is printed.
  let success := found.contains true
  modify fun desk => { desk with
    status := if success && (parsed.has 'q' || desk.status = 0) then 0
      else if desk.status ≠ 0 then desk.status else 1 }

end SchemaPress.Utility
