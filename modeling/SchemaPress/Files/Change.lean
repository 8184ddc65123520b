import SchemaPress.Files.Walk

/-!
# Changing a file tree

Each operation is one request to the system: it is done as a whole or refused, and a refused one
leaves the tree as it was. A chain of operations is a `Task`, which keeps what was done before a
failure.
-/

namespace SchemaPress

namespace Tree

/-- The tree with a new entry at a path where nothing stands yet. -/
def create (tree : Tree) (path : Path) (entry : Entry) : Except FileFailure Tree := do
  match ← tree.walk false path with
  | .entry _ _ => throw (.refused .alreadyThere path.text)
  | .vacant directory name => return tree.set (directory ++ [name]) entry

/-- The tree with other bytes in the file at a path. -/
def overwrite (tree : Tree) (path : Path) (bytes : ByteArray) : Except FileFailure Tree := do
  match ← tree.walk false path with
  | .entry _ .directory => throw (.refused .isDirectory path.text)
  | .entry place _ => return tree.set place (.file bytes)
  | .vacant _ _ => throw (.refused .notFound path.text)

/-- The tree with a file moved to another path, in place of the file or link that stood there. -/
def move (tree : Tree) (source target : Path) : Except FileFailure Tree :=
  let unmoved (refusal : Refusal) : Except FileFailure Tree :=
    .error (.unmoved refusal source.text target.text)
  match tree.walk false source, tree.walk false target with
  | .error (.refused refusal _), _ => unmoved refusal
  | .error failure, _ => .error failure
  | .ok (.vacant _ _), _ => unmoved .notFound
  | _, .error (.refused refusal _) => unmoved refusal
  | _, .error failure => .error failure
  | .ok (.entry _ _), .ok (.entry _ .directory) => unmoved .isDirectory
  | .ok (.entry place entry), .ok (.entry goal _) => .ok ((tree.erase place).set goal entry)
  | .ok (.entry place entry), .ok (.vacant directory name) =>
    .ok ((tree.erase place).set (directory ++ [name]) entry)

/-- The tree without the file or link at a path. -/
def remove (tree : Tree) (path : Path) : Except FileFailure Tree := do
  match ← tree.walk false path with
  | .entry _ .directory => throw (.refused .isDirectory path.text)
  | .entry place _ => return tree.erase place
  | .vacant _ _ => throw (.refused .notFound path.text)

end Tree

/-! ### Chains of operations -/

/-- A chain of operations on a file tree. A failure ends the chain; what was done before it stays. -/
abbrev Task (ε α : Type) : Type := ExceptT ε (StateM Tree) α

namespace Task

/-- The outcome of a chain on a tree, and the tree afterwards. -/
def outcome {ε α : Type} (task : Task ε α) (tree : Tree) : Except ε α × Tree :=
  StateT.run (ExceptT.run task) tree

/-- A result that does not depend on the tree. -/
def ofExcept {ε δ α : Type} (wrap : δ → ε) : Except δ α → Task ε α
  | .ok value => pure value
  | .error failure => throw (wrap failure)

/-- A look at the tree. -/
def look {ε δ α : Type} (wrap : δ → ε) (use : Tree → Except δ α) : Task ε α := do
  ofExcept wrap (use (← get))

/-- One operation on the tree. -/
def change {ε δ : Type} (wrap : δ → ε) (operation : Tree → Except δ Tree) : Task ε Unit := do
  set (← look wrap operation)

/-- The chain with its failures put in other words. -/
def wrapFailure {ε δ α : Type} (wrap : δ → ε) (task : Task δ α) : Task ε α :=
  ExceptT.mk do
    match ← ExceptT.run task with
    | .ok value => return .ok value
    | .error failure => return .error (wrap failure)

end Task

/-! ### Directories -/

/-- Lets a directory pass that could not be made because it is there already. -/
def acceptDirectory (path : Path) (failure : FileFailure) : Task FileFailure Unit :=
  match failure with
  | .crash _ => throw failure
  | _ => do
    if ← Task.look id (·.leadsTo (· = .directory) path) then return () else throw failure

/-- Makes sure that a directory is there. The ones above it have to be there. -/
def makeDirectory (path : Path) : Task FileFailure Unit := do
  match (← get).create path .directory with
  | .ok tree => set tree
  | .error (.refused .notFound text) => throw (.refused .notFound text)
  | .error failure => acceptDirectory path failure

/-- Makes sure that a directory is there, together with the ones above it. -/
def ensureDirectory (path : Path) : Task FileFailure Unit := do
  match (← get).create path .directory with
  | .ok tree => set tree
  | .error (.refused .notFound text) =>
    if _h : path.steps = [] then throw (.refused .notFound text)
    else
      ensureDirectory path.parent
      makeDirectory path
  | .error failure => acceptDirectory path failure
termination_by path.steps.length
decreasing_by
  simp only [Path.parent, List.length_dropLast]
  have := List.length_pos_iff.2 _h
  omega

end SchemaPress
