import SchemaPress.Release.Emission
import SchemaPress.Shell.Run
import SchemaPress.Toml.Edit

/-!
# Programs

Programs that a release may start when the program itself is run. They are `true`, `false` and the shell, each
looked up by its name. A name with a slash is the path of a file, and no file of the tree is a program.
-/

namespace SchemaPress.Program

/-- The programs that can be started. -/
def names : List String := ["true", "false", "sh"]

/-- The program that a name stands for. -/
def program? (name : String) : Option String :=
  if names.contains name then some name
  else
    names.find? fun program =>
      ["/bin/" ++ program, "/usr/bin/" ++ program].contains name

/-- Why nothing can be started by this name. -/
def missing (tree : Tree) (directory : Location) (name : String) : Refusal :=
  if name.toList.contains '/' then
    match tree.find ((Path.ofLocation directory).child name) with
    | .ok _ => .denied
    | .error (.refused refusal _) => refusal
    | .error _ => .notFound
  else if name == "." || name == ".." then .denied
  else if Tree.maxName < name.utf8ByteSize then .nameTooLong
  else .notFound

/-- The environment of a program. -/
def environment : List (String × String) :=
  [("HOME", "/root"),
   ("PATH", "/usr/local/bin:/usr/local/sbin:/usr/local/bin:/usr/sbin:/usr/bin:/sbin:/bin")]

/-- The session of a shell after it was started with arguments. -/
def shellSession (tree : Tree) (directory : Location) (name : String) (arguments : List String) :
    Shell.Session :=
  let start : Shell.Session :=
    { tree, directory, name, bindings := Shell.firstVariables environment }
  let act := Shell.runShell (Shell.execute Shell.maxDepth) name arguments
  ((ExceptT.run act).run start).2

/-- Starts a program in a directory and waits for its end. -/
def run (directory : Location) : Start := fun words => do
  if words.any fun word => word.toList.contains '\x00' then throw (.crash .badValue)
  let name := words.head?.getD ""
  let tree ← get
  match program? name with
  | some "true" => return ⟨.exited 0, [], []⟩
  | some "false" => return ⟨.exited 1, [], []⟩
  | some _ =>
    let arguments := (words.drop 1).map Shell.ofText
    let session := shellSession tree directory (Shell.ofText name) arguments
    set session.tree
    let status : Status := match session.signal with
      | some signal => .killed signal
      | none => .exited (session.status % 256)
    return ⟨status, Shell.toBytes (session.streams[1]?.getD ""),
      Shell.toBytes (session.streams[2]?.getD "")⟩
  | none => throw (.refused (missing tree directory name) name)

/-- What a release is made with when it is run in a directory. -/
def tools (directory : Location) : Tools :=
  ⟨Toml.kit, run directory⟩

end SchemaPress.Program
