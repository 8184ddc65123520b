import SchemaPress.Files.Change

/-!
# Writing a file in one step

An empty file is created under a temporary name beside the place of the file. The content is written to it and
checked, and then it is moved to its place, so no reader ever meets half of it. When anything of that fails,
the temporary file is taken away again and the place is left as it was.
-/

namespace SchemaPress

/-- Why a file is not written. -/
inductive WriteFailure where
  /-- The content does not pass its check. -/
  | invalid (reason : String)
  /-- A file operation failed. -/
  | file (failure : FileFailure)
deriving DecidableEq, Repr

namespace Writer

/-- A text that is to be written. -/
inductive Content where
  /-- A text of characters. -/
  | plain (text : String)
  /-- A text with half of a surrogate pair in it. -/
  | unencodable
deriving DecidableEq, Repr

/-- The bytes of a text. -/
def Content.encode : Content → Except FileFailure ByteArray
  | .plain text => .ok text.toUTF8
  | .unencodable => .error (.crash .unencodable)

/-- A number of eight digits that keeps temporary names apart. -/
def serial (n : Nat) : String :=
  let digits := Nat.toDigits 10 n
  String.ofList (List.replicate (8 - digits.length) '0' ++ digits)

/-- The temporary name of a file. -/
def temporaryName (name : String) (n : Nat) : String :=
  "." ++ name ++ "." ++ serial n ++ ".tmp"

/-- Creates the temporary file for a path, which is empty: the first one in the order of their numbers whose
name is not taken. A tree of `k` entries cannot hold `k + 1` of the names. The file is put into the directory
that the path spells once steps up have undone the steps in front of them, which behind a link need
not be the directory of the path itself. -/
def createTemporary (path : Path) : Nat → Nat → Task FileFailure Path
  | 0, _ => throw (.refused .alreadyThere path.text)
  | tries + 1, n => do
    let place := path.parent.normalized.join ⟨"", [temporaryName path.name n]⟩
    match (← get).create place (.file .empty) with
    | .ok tree =>
      set tree
      return place
    | .error (.refused .alreadyThere _) => createTemporary path tries (n + 1)
    | .error failure => throw failure

/-- Takes the temporary file away, if it is there. -/
def discard (temporary : Path) : Task FileFailure Unit := do
  match (← get).remove temporary with
  | .ok tree => set tree
  | .error (.refused .notFound _) => return ()
  | .error failure => throw failure

/-- Writes a text to a path, where `check` says whether it may be written. -/
def write (path : Path) (content : Content) (check : Except WriteFailure Unit) :
    Task WriteFailure Unit := do
  Task.wrapFailure .file (ensureDirectory path.parent)
  let tries := (← get).entries.length + 1
  let temporary ← Task.wrapFailure .file (createTemporary path tries 0)
  tryCatch
    (do
      let bytes ← Task.ofExcept .file content.encode
      Task.change .file (·.overwrite temporary bytes)
      Task.ofExcept id check
      Task.change .file (·.move temporary path))
    fun failure => do
      Task.wrapFailure .file (discard temporary)
      throw failure

end Writer

end SchemaPress
