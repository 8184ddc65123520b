import SchemaPress.Shell.Format
import SchemaPress.Utility.Files

/-!
# Utilities for lines of text

`head`, `tail`, `wc`, `sort`, `uniq`, `cut`, `tr`, `tee`, `tac`, `rev`, `nl` and `paste`. They read files
or their input line by line.
-/

namespace SchemaPress.Utility

/-- The number that digits write, if all of a text is digits. -/
def count? (text : String) : Option Nat :=
  if text.isEmpty || !text.toList.all Char.isDigit then none
  else some (Shell.decimalNumber text.toList)

/-! ### Parts of files -/

/-- The texts of files for `head` and `tail`, whose names are told where there are several. -/
def titled (parsed : Arguments) (part : String → String) : Job Unit := do
  let names := if parsed.operands.isEmpty then ["-"] else parsed.operands
  let withTitles := (1 < names.length || parsed.has 'v') && !parsed.has 'q'
  discard (names.foldlM
    (fun (first : Bool) name => do
      let refuse (reason : String) : Job Unit :=
        if reason == Refusal.isDirectory.reason then
          Job.complain 1 ("error reading " ++ quoted name ++ ": " ++ reason)
        else Job.complain 1 ("cannot open " ++ quoted name ++ " for reading: " ++ reason)
      match ← contents refuse name with
      | none => return first
      | some text =>
        if withTitles then
          let title := if name == "-" then "standard input" else name
          Job.say ((if first then "" else "\n") ++ "==> " ++ title ++ " <==\n")
        Job.say (part text)
        return false)
    true)

/-- Arguments in which a count with a dash in front is spelled as an option. -/
def withCount (arguments : List String) : List String :=
  match arguments with
  | first :: rest =>
    if first.startsWith "-" && (count? (String.ofList (first.toList.drop 1))).isSome then
      "-n" :: String.ofList (first.toList.drop 1) :: rest
    else first :: rest
  | [] => []

/-- `head`. -/
def head (arguments : List String) : Job Unit := do
  let parsed ← argumentsOf
    { plain := "qv", valued := "nc", long := [("lines", 'n'), ("bytes", 'c'), ("quiet", 'q'),
        ("verbose", 'v')] } (withCount arguments)
  let part (unit : String) (value : String) (cut : Nat → Bool → String → String) :
      Job (String → String) := do
    let fromEnd := value.startsWith "-"
    let digits := if fromEnd then String.ofList (value.toList.drop 1) else value
    match count? digits with
    | some n => return cut n fromEnd
    | none => Job.giveUp 1 ("invalid number of " ++ unit ++ ": " ++ quoted digits)
  let cut ← match parsed.value? 'c' with
    | some value => part "bytes" value fun n fromEnd text =>
        let chars := text.toList
        String.ofList (chars.take (if fromEnd then chars.length - n else n))
    | none => part "lines" ((parsed.value? 'n').getD "10") fun n fromEnd text =>
        let lines := linesOf text
        String.join (lines.take (if fromEnd then lines.length - n else n))
  titled parsed cut

/-- `tail`. -/
def tail (arguments : List String) : Job Unit := do
  let parsed ← argumentsOf
    { plain := "qvf", valued := "nc", long := [("lines", 'n'), ("bytes", 'c'), ("quiet", 'q'),
        ("verbose", 'v')] } (withCount arguments)
  let measure (unit value : String) : Job (Nat × Bool) := do
    let fromStart := value.startsWith "+"
    let digits := if fromStart || value.startsWith "-" then String.ofList (value.toList.drop 1) else value
    match count? digits with
    | some n => return (n, fromStart)
    | none => Job.giveUp 1 ("invalid number of " ++ unit ++ ": " ++ quoted value)
  let kept {α : Type} (n : Nat) (fromStart : Bool) (items : List α) : List α :=
    if fromStart then items.drop (n - 1) else items.drop (items.length - n)
  match parsed.value? 'c' with
  | some value =>
    let (n, fromStart) ← measure "bytes" value
    titled parsed fun text => String.ofList (kept n fromStart text.toList)
  | none =>
    let (n, fromStart) ← measure "lines" ((parsed.value? 'n').getD "10")
    titled parsed fun text => String.join (kept n fromStart (linesOf text))

/-! ### Counting -/

/-- The number of words in a text. -/
def wordCount (text : String) : Nat :=
  (text.toList.foldl
    (fun (count, inWord) c =>
      if Shell.Sum.isSpace c then (count, false) else (if inWord then count else count + 1, true))
    ((0, false) : Nat × Bool)).1

/-- `wc`. -/
def wc (arguments : List String) : Job Unit := do
  let parsed ← argumentsOf
    { plain := "lwcmL", long := [("lines", 'l'), ("words", 'w'), ("bytes", 'c'), ("chars", 'm')] }
    arguments
  let chosen := "lwmc".toList.filter parsed.has
  let chosen := if chosen.isEmpty then "lwc".toList else chosen
  let counts (text : String) : List Nat := chosen.map fun letter =>
    match letter with
    | 'l' => text.toList.count '\n'
    | 'w' => wordCount text
    | _ => text.length
  let texts ← contentsOf parsed.operands
  let total := texts.foldl (fun total (_, text) => total + text.length) 0
  let width := if parsed.operands.length ≤ 1 && chosen.length = 1 then 1
    else if parsed.operands.isEmpty || parsed.operands.contains "-" then 7
    else (toString total).length
  let line (counts : List Nat) (name : String) : String :=
    " ".intercalate (counts.map fun n =>
      let digits := toString n
      String.ofList (List.replicate (width - digits.length) ' ') ++ digits) ++
      (if name.isEmpty then "" else " " ++ name)
  texts.forM fun (name, text) =>
    Job.sayLine (line (counts text) (if parsed.operands.isEmpty then "" else name))
  if 1 < parsed.operands.length then
    let sums := texts.foldl (fun sums (_, text) => List.zipWith (· + ·) sums (counts text))
      (chosen.map fun _ => 0)
    Job.sayLine (line sums "total")

/-! ### Order -/

/-- The number at the front of a line, as `sort` takes it. -/
def leadingNumber (line : String) : Int :=
  let chars := line.toList.dropWhile fun c => c == ' ' || c == '\t'
  match chars with
  | '-' :: rest => -(Shell.decimalNumber (rest.takeWhile Char.isDigit) : Int)
  | chars => Shell.decimalNumber (chars.takeWhile Char.isDigit)

/-- The lines of texts, where a last line without an end gets one. -/
def wholeLines (text : String) : List String :=
  (linesOf text).map bareLine

/-- The part of a line that starts with a field. -/
def keyOf (parsed : Arguments) (line : String) : String :=
  match parsed.value? 'k' with
  | none => line
  | some key =>
    let index := ((count? (String.ofList (key.toList.takeWhile Char.isDigit))).getD 1) - 1
    let last := match key.splitOn "," with
      | [_, last] => count? (String.ofList (last.toList.takeWhile Char.isDigit))
      | _ => none
    let parts := match parsed.value? 't' with
      | some separator => line.splitOn separator
      | none => (line.splitOn " ").filter (· != "")
    let shortened := match last with
      | some n => parts.take n
      | none => parts
    " ".intercalate (shortened.drop index)

/-- Lines, each of them once. -/
def withoutRepeats (same : String → String → Bool) : List String → List String
  | a :: b :: rest =>
    if same a b then withoutRepeats same (a :: rest) else a :: withoutRepeats same (b :: rest)
  | lines => lines
termination_by lines => lines.length

/-- `sort`. -/
def sort (arguments : List String) : Job Unit := do
  let parsed ← argumentsOf
    { plain := "rnufbs", valued := "kto", failure := 2
      long := [("reverse", 'r'), ("numeric-sort", 'n'), ("unique", 'u')] } arguments
  let names := if parsed.operands.isEmpty then ["-"] else parsed.operands
  let texts ← names.mapM fun name => do
    match ← contents
        (fun reason =>
          if reason == Refusal.isDirectory.reason then
            Job.giveUp 2 ("read failed: " ++ shown name ++ ": " ++ reason)
          else Job.giveUp 2 ("cannot read: " ++ shown name ++ ": " ++ reason)) name with
    | some text => return text
    | none => return ""
  let lines := texts.flatMap wholeLines
  let numeric := parsed.has 'n' || ((parsed.value? 'k').getD "").toList.contains 'n'
  let fold (text : String) : String := if parsed.has 'f' then text.toUpper else text
  let before (a b : String) : Bool :=
    let (x, y) := (fold (keyOf parsed a), fold (keyOf parsed b))
    if numeric && leadingNumber x ≠ leadingNumber y then decide (leadingNumber x < leadingNumber y)
    else if !numeric && x != y then decide (x < y)
    else if parsed.has 'u' || parsed.has 's' then true
    else decide (a ≤ b)
  let same (a b : String) : Bool :=
    let (x, y) := (fold (keyOf parsed a), fold (keyOf parsed b))
    if numeric then leadingNumber x = leadingNumber y else x == y
  let sorted := lines.mergeSort fun a b => if parsed.has 'r' then before b a else before a b
  let sorted := if parsed.has 'u' then withoutRepeats same sorted else sorted
  let text := String.join (sorted.map (· ++ "\n"))
  match parsed.value? 'o' with
  | none => Job.say text
  | some name =>
    match (← get).tree.walk true (← Job.pathOf name) with
    | .ok (.entry place (.file _)) =>
      Job.setTree ((← get).tree.set place (.file ⟨(Shell.toBytes text).toArray⟩))
    | .ok (.vacant directory last) =>
      Job.setTree ((← get).tree.set (directory ++ [last]) (.file ⟨(Shell.toBytes text).toArray⟩))
    | .ok _ => Job.complain 2 ("open failed: " ++ shown name ++ ": Is a directory")
    | .error failure => Job.complain 2 ("open failed: " ++ shown name ++ ": " ++ reasonOf failure)

/-- Lines in a row that are equal, with their numbers. -/
def runs : List String → List (Nat × String)
  | [] => []
  | line :: rest =>
    match runs rest with
    | (n, next) :: others => if next == line then (n + 1, line) :: others else (1, line) :: (n, next) :: others
    | [] => [(1, line)]

/-- `uniq`. -/
def uniq (arguments : List String) : Job Unit := do
  let parsed ← argumentsOf
    { plain := "cdui", long := [("count", 'c'), ("repeated", 'd'), ("unique", 'u')] } arguments
  let texts ← contentsOf (parsed.operands.take 1)
  let found := runs (texts.flatMap fun (_, text) => wholeLines text)
  let found := if parsed.has 'd' then found.filter fun (n, _) => 1 < n else found
  let found := if parsed.has 'u' then found.filter fun (n, _) => n = 1 else found
  found.forM fun (n, line) =>
    let digits := toString n
    Job.sayLine (if parsed.has 'c' then
      String.ofList (List.replicate (7 - digits.length) ' ') ++ digits ++ " " ++ line else line)

/-! ### Parts of lines -/

/-- The places that a list such as `1,3-5` names. -/
def places? (text : String) : Option (List (Nat × Option Nat)) :=
  (text.splitOn ",").mapM fun part =>
    match part.splitOn "-" with
    | [one] => (count? one).map fun n => (n, some n)
    | [low, high] =>
      match count? low, count? high with
      | some a, some b => some (a, some b)
      | some a, none => if high.isEmpty then some (a, none) else none
      | none, some b => if low.isEmpty then some (1, some b) else none
      | none, none => none
    | _ => none

/-- The items at the places that are named. -/
def atPlaces {α : Type} (places : List (Nat × Option Nat)) (items : List α) : List α :=
  (items.zipIdx 1).filterMap fun (item, n) =>
    if places.any fun (low, high) => decide (low ≤ n) && (high.map (decide <| n ≤ ·)).getD true then
      some item
    else none

/-- `cut`. -/
def cut (arguments : List String) : Job Unit := do
  let parsed ← argumentsOf
    { plain := "sn", valued := "bcfd", long := [("bytes", 'b'), ("characters", 'c'), ("fields", 'f'),
        ("delimiter", 'd'), ("only-delimited", 's')] } arguments
  let places (text : String) : Job (List (Nat × Option Nat)) := do
    match places? text with
    | some places => return places
    | none => Job.misuse 1 "invalid byte, character or field list"
  let cutLine : String → Option String ← do
    match parsed.value? 'f', parsed.value? 'c', parsed.value? 'b' with
    | some list, _, _ =>
      let places ← places list
      let separator := (parsed.value? 'd').getD "\t"
      if separator.length ≠ 1 then Job.misuse 1 "the delimiter must be a single character"
      pure fun line =>
        let parts := line.splitOn separator
        if parts.length = 1 then (if parsed.has 's' then none else some line)
        else some (separator.intercalate (atPlaces places parts))
    | none, some list, _ =>
      let places ← places list
      pure fun line => some (String.ofList (atPlaces places line.toList))
    | none, none, some list =>
      let places ← places list
      pure fun line => some (String.ofList (atPlaces places line.toList))
    | none, none, none =>
      Job.misuse 1 "you must specify a list of bytes, characters, or fields"
  let texts ← contentsOf parsed.operands
  (texts.flatMap fun (_, text) => wholeLines text).forM fun line =>
    match cutLine line with
    | some text => Job.sayLine text
    | none => pure ()

/-- The bytes of a set as `tr` writes it. -/
def setOf (fuel : Nat) (chars : List Char) : List Char :=
  match fuel, chars with
  | 0, _ => []
  | _, [] => []
  | fuel + 1, '[' :: ':' :: rest =>
    let name := rest.takeWhile Char.isAlpha
    match rest.drop name.length, Shell.classes.lookup (String.ofList name) with
    | ':' :: ']' :: rest, some test =>
      ((List.range 256).map Char.ofNat).filter test ++ setOf fuel rest
    | _, _ => '[' :: setOf fuel (':' :: rest)
  | fuel + 1, '\\' :: rest =>
    let (c, size) := Shell.escaped rest
    c :: setOf fuel (rest.drop size)
  | fuel + 1, low :: '-' :: high :: rest =>
    (List.range (high.toNat + 1 - low.toNat)).map (fun n => Char.ofNat (low.toNat + n)) ++ setOf fuel rest
  | fuel + 1, c :: rest => c :: setOf fuel rest

/-- Bytes of which those in a row that pass a test are one. -/
def squeezedBytes (test : Char → Bool) : List Char → List Char
  | a :: b :: rest =>
    if a == b && test a then squeezedBytes test (a :: rest) else a :: squeezedBytes test (b :: rest)
  | chars => chars
termination_by chars => chars.length

/-- `tr`. -/
def tr (arguments : List String) : Job Unit := do
  let parsed ← argumentsOf
    { plain := "dscCt", inFront := true
      long := [("delete", 'd'), ("squeeze-repeats", 's'), ("complement", 'c')] } arguments
  let deletes := parsed.has 'd'
  let squeezes := parsed.has 's'
  let complement := parsed.has 'c' || parsed.has 'C'
  let setFrom (text : String) : List Char :=
    let chars := setOf (text.length + 1) text.toList
    if complement then ((List.range 256).map Char.ofNat).filter (!chars.contains ·) else chars
  match parsed.operands with
  | [] => Job.misuse 1 "missing operand"
  | [only] =>
    if deletes then
      let set := setFrom only
      Job.say (String.ofList ((← Job.readInput).toList.filter (!set.contains ·)))
    else if squeezes then
      let set := setFrom only
      Job.say (String.ofList (squeezedBytes set.contains (← Job.readInput).toList))
    else
      Job.misuse 1 ("missing operand after " ++ quoted only ++
        "\nTwo strings must be given when translating.")
  | first :: second :: _ =>
    let set := setFrom first
    let targets := setOf (second.length + 1) second.toList
    let input := (← Job.readInput).toList
    if deletes then
      let rest := input.filter (!set.contains ·)
      Job.say (String.ofList (if squeezes then squeezedBytes targets.contains rest else rest))
    else
      if targets.isEmpty then Job.giveUp 1 "when not truncating set1, string2 must be non-empty"
      let last := targets.getLast?.getD ' '
      let changed := input.map fun c =>
        match set.reverse.idxOf? c with
        | some n => targets[set.length - 1 - n]?.getD last
        | none => c
      Job.say (String.ofList (if squeezes then squeezedBytes targets.contains changed else changed))

/-- `tee`. -/
def tee (arguments : List String) : Job Unit := do
  let parsed ← argumentsOf { plain := "ai", long := [("append", 'a')] } arguments
  let text ← Job.readInput
  parsed.operands.forM fun name => do
    let tree := (← get).tree
    let written (before : ByteArray) : Entry := .file (before ++ ⟨(Shell.toBytes text).toArray⟩)
    match tree.walk true (← Job.pathOf name) with
    | .ok (.entry place (.file bytes)) =>
      Job.setTree (tree.set place (written (if parsed.has 'a' then bytes else .empty)))
    | .ok (.vacant directory last) => Job.setTree (tree.set (directory ++ [last]) (written .empty))
    | .ok _ => Job.complain 1 (shown name ++ ": Is a directory")
    | .error failure =>
      if (← Job.pathOf name).text == "/dev/null" then return ()
      else Job.complain 1 (shown name ++ ": " ++ reasonOf failure)
  Job.say text

/-- `tac`. -/
def tac (arguments : List String) : Job Unit := do
  let parsed ← argumentsOf {} arguments
  (← contentsOf parsed.operands).forM fun (_, text) => Job.say (String.join (linesOf text).reverse)

/-- `rev`. -/
def rev (arguments : List String) : Job Unit := do
  let parsed ← argumentsOf {} arguments
  (← contentsOf parsed.operands).forM fun (_, text) => do
    (linesOf text).forM fun line => do
      let turned := String.ofList (bareLine line).toList.reverse
      Job.say (if line.endsWith "\n" then turned ++ "\n" else turned)

/-- `nl`. -/
def nl (arguments : List String) : Job Unit := do
  let parsed ← argumentsOf { valued := "bwsn" } arguments
  let lines := (← contentsOf parsed.operands).flatMap fun (_, text) => wholeLines text
  let all := parsed.value? 'b' == some "a"
  discard (lines.foldlM
    (fun (n : Nat) line => do
      if line.isEmpty && !all then
        Job.sayLine "       "
        return n
      else
        let digits := toString n
        Job.sayLine (String.ofList (List.replicate (6 - digits.length) ' ') ++ digits ++ "\t" ++ line)
        return n + 1)
    1)

/-- `paste`. -/
def paste (arguments : List String) : Job Unit := do
  let parsed ← argumentsOf { plain := "s", valued := "d", long := [("serial", 's')] } arguments
  let separator := String.ofList (((parsed.value? 'd').getD "\t").toList.take 1)
  let columns := (← contentsOf parsed.operands).map fun (_, text) => wholeLines text
  if parsed.has 's' then columns.forM fun lines => Job.sayLine (separator.intercalate lines)
  else
    let height := (columns.map List.length).foldl max 0
    (List.range height).forM fun n =>
      Job.sayLine (separator.intercalate (columns.map fun lines => lines[n]?.getD ""))

end SchemaPress.Utility
