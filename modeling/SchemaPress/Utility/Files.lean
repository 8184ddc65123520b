import SchemaPress.Shell.Expansion
import SchemaPress.Utility.Basic

/-!
# Utilities for files and directories

`cat`, `mkdir`, `rmdir`, `rm`, `touch`, `cp`, `mv`, `ln` and `ls`. Each of their arguments is dealt
with on its own: one that fails is complained about, and the others are dealt with all the same.
-/

namespace SchemaPress.Utility

/-! ### Looking at files -/

/-- What is at a path, through links or not. -/
def entryAt (follow : Bool) (name : String) : Job (Except FileFailure (Location × Entry)) := do
  let path ← Job.pathOf name
  if name.isEmpty then return .error (.refused .notFound path.text)
  else
    match (← get).tree.walk follow path with
    | .ok (.entry location entry) =>
      if name.endsWith "/" && entry ≠ .directory then return .error (.refused .notDirectory path.text)
      else return .ok (location, entry)
    | .ok (.vacant _ _) => return .error (.refused .notFound path.text)
    | .error failure => return .error failure

/-- Whether a path leads to a directory. -/
def isDirectory (name : String) : Job Bool := do
  match ← entryAt true name with
  | .ok (_, .directory) => return true
  | _ => return false

/-- The last name of a path. -/
def baseName (name : String) : String :=
  let kept := (name.toList.reverse.dropWhile (· == '/')).takeWhile (· != '/')
  if name.isEmpty then "" else if kept.isEmpty then "/" else String.ofList kept.reverse

/-- A name in a directory. -/
def inside (directory name : String) : String :=
  if directory.endsWith "/" then directory ++ name else directory ++ "/" ++ name

/-- The lines of texts with their numbers. -/
def numbered (skipBlank : Bool) (number : Nat) : List String → List String
  | [] => []
  | line :: rest =>
    if skipBlank && line == "\n" then line :: numbered skipBlank number rest
    else
      let digits := toString number
      let blanks := String.ofList (List.replicate (6 - digits.length) ' ')
      (blanks ++ digits ++ "\t" ++ line) :: numbered skipBlank (number + 1) rest

/-- Lines where several blank ones in a row are one. -/
def squeezed : List String → List String
  | "\n" :: "\n" :: rest => squeezed ("\n" :: rest)
  | line :: rest => line :: squeezed rest
  | [] => []

/-- `cat`. -/
def cat (arguments : List String) : Job Unit := do
  let parsed ← argumentsOf
    { plain := "nbsEu", long := [("number", 'n'), ("number-nonblank", 'b'), ("squeeze-blank", 's'),
        ("show-ends", 'E')] } arguments
  let text := String.join ((← contentsOf parsed.operands).map Prod.snd)
  let lines := linesOf text
  let lines := if parsed.has 's' then squeezed lines else lines
  let lines := if parsed.has 'E' then
      lines.map fun line => if line.endsWith "\n" then bareLine line ++ "$\n" else line
    else lines
  let lines := if parsed.has 'b' then numbered true 1 lines
    else if parsed.has 'n' then numbered false 1 lines
    else lines
  Job.say (String.join lines)

/-! ### Making and removing -/

/-- The first directory on the way to a path that cannot be made, as it is spelled. -/
def obstacle (tree : Tree) (directory : Path) (front : String) : List String → String
  | [] => front
  | step :: rest =>
    let next := if front.isEmpty then step else front ++ "/" ++ step
    match tree.find (directory.child (Shell.toText next)) with
    | .ok (_, .directory) => obstacle tree directory next rest
    | _ => next

/-- `mkdir`. -/
def mkdir (arguments : List String) : Job Unit := do
  let parsed ← argumentsOf
    { plain := "pv", valued := "m", long := [("parents", 'p'), ("verbose", 'v'), ("mode", 'm')] }
    arguments
  if parsed.operands.isEmpty then Job.misuse 1 "missing operand"
  parsed.operands.forM fun name => do
    let path ← Job.pathOf name
    let tree := (← get).tree
    let refused (name : String) (failure : FileFailure) : Job Unit :=
      Job.complain 1 ("cannot create directory " ++ quoted name ++ ": " ++ reasonOf failure)
    if name.isEmpty then refused name (.refused .notFound "")
    else if parsed.has 'p' then
      match (ensureDirectory path).outcome tree with
      | (.ok _, tree) => Job.setTree tree
      | (.error failure, after) =>
        Job.setTree after
        let spelled := obstacle after (Path.ofLocation (← get).directory) ""
          ((name.splitOn "/").filter (· != ""))
        let failure := match failure with
          | .refused .alreadyThere text =>
            if spelled == name then .refused .alreadyThere text else .refused .notDirectory text
          | failure => failure
        refused spelled failure
    else
      match tree.create path .directory with
      | .ok tree =>
        Job.setTree tree
        if parsed.has 'v' then Job.sayLine ("mkdir: created directory " ++ quoted name)
      | .error failure => refused name failure

/-- `rmdir`. -/
def rmdir (arguments : List String) : Job Unit := do
  let parsed ← argumentsOf { plain := "pv", long := [("parents", 'p'), ("verbose", 'v')] } arguments
  if parsed.operands.isEmpty then Job.misuse 1 "missing operand"
  let removeOne (isParent : Bool) (name : String) : Job Bool := do
    let refused (reason : String) : Job Bool := do
      Job.complain 1 ("failed to remove " ++ (if isParent then "directory " else "") ++ quoted name ++
        ": " ++ reason)
      return false
    match ← entryAt false name with
    | .ok (location, .directory) =>
      let tree := (← get).tree
      if tree.isPopulated location then refused "Directory not empty"
      else
        Job.setTree (tree.erase location)
        return true
    | .ok _ => refused Refusal.notDirectory.reason
    | .error failure => refused (reasonOf failure)
  parsed.operands.forM fun name => do
    let names := if parsed.has 'p' then
        let steps := (name.splitOn "/").filter (· != "")
        (List.range steps.length).reverse.map fun n => "/".intercalate (steps.take (n + 1))
      else [name]
    discard (names.zipIdx.foldlM
      (fun going (name, n) => if going then removeOne (0 < n) name else return false) true)

/-- The paths of everything in a directory, what is inside before the directory itself. -/
def contentsFirst (tree : Tree) (location : Location) (name : String) : List String :=
  let below := tree.entries.filterMap fun (place, _) =>
    if location.isPrefixOf place then some (place.drop location.length) else none
  let names := below.map fun steps => steps.foldl (fun front step => inside front (Shell.ofText step)) name
  (names.mergeSort fun a b => decide (b ≤ a))

/-- `rm`. -/
def rm (arguments : List String) : Job Unit := do
  let parsed ← argumentsOf
    { plain := "rRfdvi", long := [("recursive", 'r'), ("force", 'f'), ("dir", 'd'), ("verbose", 'v')] }
    arguments
  let deep := parsed.has 'r' || parsed.has 'R'
  let forced := parsed.has 'f'
  if parsed.operands.isEmpty && !forced then Job.misuse 1 "missing operand"
  parsed.operands.forM fun name => do
    let tell (text : String) : Job Unit := if parsed.has 'v' then Job.sayLine text else pure ()
    let refused (reason : String) : Job Unit :=
      Job.complain 1 ("cannot remove " ++ quoted name ++ ": " ++ reason)
    let last := baseName name
    match ← entryAt false name with
    | .ok (location, .directory) =>
      let tree := (← get).tree
      if (deep || parsed.has 'd') && (last == "." || last == "..") then
        Job.complain 1 ("refusing to remove '.' or '..' directory: skipping " ++ quoted name)
      else if deep then
        (contentsFirst tree location name).forM fun name => do
          match ← entryAt false name with
          | .ok (_, .directory) => tell ("removed directory " ++ quoted name)
          | _ => tell ("removed " ++ quoted name)
        Job.setTree (tree.prune location)
      else if parsed.has 'd' then
        if tree.isPopulated location then refused "Directory not empty"
        else
          Job.setTree (tree.erase location)
          tell ("removed directory " ++ quoted name)
      else refused Refusal.isDirectory.reason
    | .ok (location, _) =>
      Job.setTree ((← get).tree.erase location)
      tell ("removed " ++ quoted name)
    | .error failure =>
      match failure with
      | .refused refusal _ =>
        if forced && (refusal matches .notFound | .notDirectory) then return ()
        else refused refusal.reason
      | failure => refused (reasonOf failure)

/-- `touch`. -/
def touch (arguments : List String) : Job Unit := do
  let parsed ← argumentsOf
    { plain := "camhf", valued := "drt", long := [("no-create", 'c'), ("date", 'd'),
        ("reference", 'r')] } arguments
  if parsed.operands.isEmpty then Job.misuse 1 "missing file operand"
  parsed.operands.forM fun name => do
    let tree := (← get).tree
    let refused (failure : FileFailure) : Job Unit :=
      let action := if name.endsWith "/" then "setting times of " else "cannot touch "
      Job.complain 1 (action ++ quoted name ++ ": " ++ reasonOf failure)
    if name == "-" then return ()
    else if name.isEmpty then refused (.refused .notFound "")
    else
      match tree.walk true (← Job.pathOf name) with
      | .ok (.entry _ entry) =>
        if name.endsWith "/" && entry ≠ .directory then refused (.refused .notDirectory "")
        else return ()
      | .ok (.vacant directory last) =>
        if parsed.has 'c' then return ()
        else if name.endsWith "/" then refused (.refused .notFound "")
        else Job.setTree (tree.set (directory ++ [last]) (.file .empty))
      | .error failure => if parsed.has 'c' then return () else refused failure

/-! ### Copying and moving -/

/-- The tree with everything below a place copied below another one. -/
def copyBelow (tree : Tree) (source target : Location) : Tree :=
  tree.entries.reverse.foldl
    (fun copied (place, entry) =>
      if source.isPrefixOf place then copied.set (target ++ place.drop source.length) entry
      else copied)
    tree

/-- Where the source of a copy or a move goes: into the last argument if that is a directory, or else
to it. -/
structure Transfer where
  /-- The source. -/
  source : String
  /-- The target. -/
  target : String

/-- The transfers that the arguments of `cp`, `mv` or `ln` ask for. -/
def transfers (parsed : Arguments) : Job (List Transfer) := do
  match parsed.value? 't' with
  | some directory =>
    if parsed.operands.isEmpty then Job.misuse 1 "missing file operand"
    if !(← isDirectory directory) then
      Job.giveUp 1 ("target directory " ++ quoted directory ++ ": No such file or directory")
    return parsed.operands.map fun source => ⟨source, inside directory (baseName source)⟩
  | none =>
    match parsed.operands with
    | [] => Job.misuse 1 "missing file operand"
    | [source] => Job.misuse 1 ("missing destination file operand after " ++ quoted source)
    | [source, target] =>
      if !parsed.has 'T' && (← isDirectory target) then
        return [⟨source, inside target (baseName source)⟩]
      else return [⟨source, target⟩]
    | operands =>
      let target := operands.getLast?.getD ""
      if parsed.has 'T' then
        Job.misuse 1 ("extra operand " ++ quoted ((operands.drop 2).head?.getD ""))
      if ← isDirectory target then
        return operands.dropLast.map fun source => ⟨source, inside target (baseName source)⟩
      else
        let reason := match ← entryAt true target with
          | .ok _ => Refusal.notDirectory.reason
          | .error failure => reasonOf failure
        Job.giveUp 1 ("target " ++ quoted target ++ ": " ++ reason)

/-- Copies a file or a directory. -/
def copyOne (parsed : Arguments) (transfer : Transfer) : Job Unit := do
  let deep := parsed.has 'r' || parsed.has 'R' || parsed.has 'a'
  let keepLinks := parsed.has 'a' || parsed.has 'd' || parsed.has 'P' || deep
  let source := transfer.source
  let target := transfer.target
  let tell : Job Unit :=
    if parsed.has 'v' then Job.sayLine (quoted source ++ " -> " ++ quoted target) else pure ()
  match ← entryAt (!keepLinks) source with
  | .error failure => Job.complain 1 ("cannot stat " ++ quoted source ++ ": " ++ reasonOf failure)
  | .ok (place, entry) =>
    let tree := (← get).tree
    let spot := tree.walk (!(entry matches .link _)) (← Job.pathOf target)
    let isDirectory := entry matches .directory
    if isDirectory && !deep then
      Job.complain 1 ("-r not specified; omitting directory " ++ quoted source)
    else
      let cannot : String := if isDirectory then "cannot create directory "
        else if entry matches .link _ then "cannot create symbolic link "
        else "cannot create regular file "
      match spot with
      | .error failure => Job.complain 1 (cannot ++ quoted target ++ ": " ++ reasonOf failure)
      | .ok (.entry goal found) =>
        if goal == place then
          Job.complain 1 (quoted source ++ " and " ++ quoted target ++ " are the same file")
        else if isDirectory && !(found matches .directory) then
          Job.complain 1 ("cannot overwrite non-directory " ++ quoted target ++ " with directory " ++
            quoted source)
        else if !isDirectory && (found matches .directory) then
          Job.complain 1 ("cannot overwrite directory " ++ quoted target ++ " with non-directory")
        else if isDirectory && place.isPrefixOf goal then
          Job.complain 1 ("cannot copy a directory, " ++ quoted source ++ ", into itself, " ++
            quoted target)
        else if parsed.has 'n' && !isDirectory then return ()
        else
          Job.setTree (if isDirectory then copyBelow tree place goal else tree.set goal entry)
          tell
      | .ok (.vacant directory last) =>
        let goal := directory ++ [last]
        if isDirectory && place.isPrefixOf goal then
          Job.setTree ((copyBelow tree place goal).prune (goal ++ goal.drop place.length))
          Job.complain 1 ("cannot copy a directory, " ++ quoted source ++ ", into itself, " ++
            quoted target)
        else if !isDirectory && target.endsWith "/" then
          Job.complain 1 (cannot ++ quoted target ++ ": Not a directory")
        else
          Job.setTree (if isDirectory then copyBelow tree place goal else tree.set goal entry)
          tell

/-- `cp`. -/
def cp (arguments : List String) : Job Unit := do
  let parsed ← argumentsOf
    { plain := "rRafpnvTuiLPdHlsx", valued := "tS"
      long := [("recursive", 'r'), ("archive", 'a'), ("force", 'f'), ("verbose", 'v'),
        ("no-clobber", 'n'), ("target-directory", 't'), ("no-target-directory", 'T')] } arguments
  (← transfers parsed).forM (copyOne parsed)

/-- Moves a file or a directory. -/
def moveOne (parsed : Arguments) (transfer : Transfer) : Job Unit := do
  let source := transfer.source
  let target := transfer.target
  let tell : Job Unit :=
    if parsed.has 'v' then Job.sayLine ("renamed " ++ quoted source ++ " -> " ++ quoted target)
    else pure ()
  let refused (reason : String) : Job Unit :=
    Job.complain 1 ("cannot move " ++ quoted source ++ " to " ++ quoted target ++ ": " ++ reason)
  match ← entryAt false source with
  | .error failure => Job.complain 1 ("cannot stat " ++ quoted source ++ ": " ++ reasonOf failure)
  | .ok (place, entry) =>
    let tree := (← get).tree
    let isDirectory := entry matches .directory
    let relocate (goal : Location) : Job Unit := do
      Job.setTree (if isDirectory then (copyBelow tree place goal).prune place
        else (tree.erase place).set goal entry)
      tell
    match tree.walk false (← Job.pathOf target) with
    | .error failure => refused (reasonOf failure)
    | .ok (.entry goal found) =>
      if goal == place then
        if isDirectory then
          Job.complain 1 ("cannot move " ++ quoted source ++ " to a subdirectory of itself, " ++
            quoted (inside target (baseName source)))
        else Job.complain 1 (quoted source ++ " and " ++ quoted target ++ " are the same file")
      else if isDirectory && place.isPrefixOf goal then
        Job.complain 1 ("cannot move " ++ quoted source ++ " to a subdirectory of itself, " ++
          quoted target)
      else if isDirectory && !(found matches .directory) then
        Job.complain 1 ("cannot overwrite non-directory " ++ quoted target ++ " with directory " ++
          quoted source)
      else if !isDirectory && (found matches .directory) then
        Job.complain 1 ("cannot overwrite directory " ++ quoted target ++ " with non-directory")
      else if isDirectory && tree.isPopulated goal then refused "Directory not empty"
      else if parsed.has 'n' then return ()
      else relocate goal
    | .ok (.vacant directory last) =>
      let goal := directory ++ [last]
      if isDirectory && place.isPrefixOf goal then
        Job.complain 1 ("cannot move " ++ quoted source ++ " to a subdirectory of itself, " ++
          quoted target)
      else if !isDirectory && target.endsWith "/" then refused Refusal.notDirectory.reason
      else relocate goal

/-- `mv`. -/
def mv (arguments : List String) : Job Unit := do
  let parsed ← argumentsOf
    { plain := "fnvTui", valued := "tS"
      long := [("force", 'f'), ("verbose", 'v'), ("no-clobber", 'n'), ("target-directory", 't'),
        ("no-target-directory", 'T')] } arguments
  (← transfers parsed).forM (moveOne parsed)

/-- `ln`. -/
def ln (arguments : List String) : Job Unit := do
  let parsed ← argumentsOf
    { plain := "sfvnTr", valued := "tS", long := [("symbolic", 's'), ("force", 'f')] } arguments
  let symbolic := parsed.has 's'
  let parsed := match parsed.operands with
    | [only] => { parsed with operands := [only, "."] }
    | _ => parsed
  (← transfers parsed).forM fun transfer => do
    let refused (reason : String) : Job Unit :=
      let details := if symbolic then "symbolic link " ++ quoted transfer.target
        else "hard link " ++ quoted transfer.target ++
          (if reason == Refusal.alreadyThere.reason then "" else " => " ++ quoted transfer.source)
      Job.complain 1 ("failed to create " ++ details ++ ": " ++ reason)
    let tree := (← get).tree
    let entry : Except String Entry ← do
      if symbolic then pure (.ok (.link (Shell.toText transfer.source)))
      else
        match ← entryAt false transfer.source with
        | .ok (_, .directory) => pure (.error "hard link not allowed for directory")
        | .ok (_, entry) => pure (.ok entry)
        | .error failure => pure (.error (reasonOf failure))
    match entry with
    | .error "hard link not allowed for directory" =>
      Job.complain 1 (shown transfer.source ++ ": hard link not allowed for directory")
    | .error reason =>
      Job.complain 1 ("failed to access " ++ quoted transfer.source ++ ": " ++ reason)
    | .ok entry =>
      match tree.walk false (← Job.pathOf transfer.target) with
      | .ok (.vacant directory last) => Job.setTree (tree.set (directory ++ [last]) entry)
      | .ok (.entry place _) =>
        if parsed.has 'f' then Job.setTree (tree.set place entry)
        else refused Refusal.alreadyThere.reason
      | .error failure => refused (reasonOf failure)

/-! ### Listing -/

/-- A name with the sign of its kind, if signs are asked for. -/
def marked (parsed : Arguments) (tree : Tree) (location : Location) (name : String) : String :=
  match tree.get? location with
  | some .directory => if parsed.has 'p' || parsed.has 'F' then name ++ "/" else name
  | some (.link _) => if parsed.has 'F' then name ++ "@" else name
  | _ => name

/-- The lines that list a directory. -/
def listing (parsed : Arguments) (tree : Tree) (location : Location) : List String :=
  let names := Shell.namesIn tree location
  let names := if parsed.has 'a' then "." :: ".." :: names
    else if parsed.has 'A' then names
    else names.filter fun name => !name.startsWith "."
  let names := if parsed.has 'r' then names.reverse else names
  names.map fun name => marked parsed tree (location ++ [Shell.toText name]) name

/-- The directories below a directory that are listed too, each with its name. -/
def directoriesBelow (parsed : Arguments) (tree : Tree) (fuel : Nat) (location : Location)
    (name : String) : List (Location × String) :=
  match fuel with
  | 0 => []
  | fuel + 1 =>
    let inner := (Shell.namesIn tree location).filter fun step =>
      (parsed.has 'a' || parsed.has 'A' || !step.startsWith ".") &&
        decide (tree.get? (location ++ [Shell.toText step]) = some .directory)
    let inner := if parsed.has 'r' then inner.reverse else inner
    (location, name) :: inner.flatMap fun step =>
      directoriesBelow parsed tree fuel (location ++ [Shell.toText step]) (inside name step)

/-- The paths of everything at and below a place, each directory before what is in it. -/
def pathsBelow (tree : Tree) (fuel : Nat) (location : Location) (name : String) :
    List (String × Entry) :=
  match fuel, tree.get? location with
  | _, none => []
  | 0, _ => []
  | fuel + 1, some entry =>
    (name, entry) ::
      if entry = .directory then
        (Shell.namesIn tree location).flatMap fun step =>
          pathsBelow tree fuel (location ++ [Shell.toText step]) (inside name step)
      else []

/-- `ls`. The long form is accepted, but rights and times are not kept, so it tells names alone. -/
def ls (arguments : List String) : Job Unit := do
  let parsed ← argumentsOf
    { plain := "1aAdRpFrULClh", failure := 2
      long := [("all", 'a'), ("almost-all", 'A'), ("directory", 'd'), ("recursive", 'R'),
        ("reverse", 'r')] } arguments
  let operands := if parsed.operands.isEmpty then ["."] else parsed.operands
  let sorted := operands.mergeSort fun a b => decide (a ≤ b)
  let sorted := if parsed.has 'r' then sorted.reverse else sorted
  let found ← sorted.mapM fun name => do
    match ← entryAt true name, ← entryAt false name with
    | .ok (location, entry), _ => return some (name, location, entry)
    | .error _, .ok (location, entry) => return some (name, location, entry)
    | .error failure, .error _ =>
      Job.complain 2 ("cannot access " ++ quoted name ++ ": " ++ reasonOf failure)
      return none
  let found := found.filterMap id
  let tree := (← get).tree
  let isListed (entry : Entry) : Bool := !parsed.has 'd' && decide (entry = .directory)
  let files := found.filter fun (_, _, entry) => !isListed entry
  let directories := found.filter fun (_, _, entry) => isListed entry
  files.forM fun (name, location, _) => Job.sayLine (marked parsed tree location name)
  let directories := directories.flatMap fun (name, location, _) =>
    if parsed.has 'R' then directoriesBelow parsed tree (tree.entries.length + 1) location name
    else [(location, name)]
  let titled := parsed.has 'R' || 1 < operands.length
  let blocks := directories.map fun (location, name) =>
    (if titled then shown name ++ ":\n" else "") ++
      String.join ((listing parsed tree location).map (· ++ "\n"))
  if !files.isEmpty && !directories.isEmpty then Job.say "\n"
  Job.say ("\n".intercalate blocks)

end SchemaPress.Utility
