import SchemaPress.CommandLine.Commands
import SchemaPress.Program

/-!
# The program

The program reads the files that a run may look at, works out what the run leaves of them, and then
makes the changes. It reads what lies under the working directory and under the paths that the
arguments name. A symbolic link is followed only to what is read.
-/

namespace SchemaPress

/-- What is found at a place and below it. A directory that cannot be read is not there. -/
partial def Tree.found (place : Location) : IO (List (Location × Entry)) := do
  let text := (Path.ofLocation place).text
  let path ← IO.FS.realPath text
  if path.toString ≠ text then return [(place, .link path.toString)]
  else if ← path.isDir then
    let below ← (← path.readDir).toList.mapM fun entry =>
      try found (place ++ [entry.fileName]) catch _ => pure []
    return (place, .directory) :: below.flatten
  else if ← path.pathExists then
    let entry ← try Entry.file <$> IO.FS.readBinFile text catch _ => pure (.unreadable .empty)
    return [(place, entry)]
  else return []

/-- The tree with what is found at a path and below it, and the directories above. -/
def Tree.withPath (tree : Tree) (path : Path) : IO Tree := do
  let place := path.normalized.steps
  let found ← try Tree.found place catch _ => pure []
  let above := (List.range place.length).map fun n => (place.take n, Entry.directory)
  let known := if found.isEmpty then [] else above ++ found
  return ⟨tree.entries ++ known.filter fun (place, _) => (tree.get? place).isNone⟩

/-- The paths that the arguments may name. -/
def CommandLine.namedPaths (arguments : List String) : List String :=
  arguments ++ arguments.filterMap fun argument =>
    match argument.toList.dropWhile (· != '=') with
    | '=' :: value => some (String.ofList value)
    | _ => none

/-- Puts an entry at a place where it is not yet. -/
def Entry.store (entry : Entry) (place : Location) : IO Unit := do
  let path := Path.ofLocation place
  match entry with
  | .directory => IO.FS.createDirAll path.text
  | .file bytes =>
    let temporary := path.parent.child (Writer.temporaryName path.name 0)
    IO.FS.writeBinFile temporary.text bytes
    IO.FS.rename temporary.text path.text
  | .unreadable _ | .link _ => return ()

/-- Makes the changes that lead from one tree to another. -/
def Tree.store (before after : Tree) : IO Unit := do
  for (place, _) in before.entries do
    if (after.get? place).isNone then IO.FS.removeFile (Path.ofLocation place).text
  for (place, entry) in after.entries.mergeSort fun a b => a.1.length ≤ b.1.length do
    if before.get? place ≠ some entry then entry.store place

end SchemaPress

open SchemaPress in
/-- Runs the program with its arguments. -/
def main (arguments : List String) : IO UInt32 := do
  let directory := (Path.ofText (← IO.FS.realPath ".").toString).steps
  let here ← Tree.empty.withPath (Path.ofLocation directory)
  let tree ← (CommandLine.namedPaths arguments).foldlM
    (fun tree name => tree.withPath ((Path.ofLocation directory).child name)) here
  let (outcome, after) := CommandLine.run (Program.tools directory) tree directory arguments
  tree.store after
  IO.print outcome.output
  IO.eprint outcome.errors
  if outcome.crash.isSome then IO.eprintln "The program has met a failure that it does not foresee."
  return outcome.exitCode.toUInt32
