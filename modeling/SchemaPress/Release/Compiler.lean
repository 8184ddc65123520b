import SchemaPress.Files.Change
import SchemaPress.Files.Text
import SchemaPress.Release.Error
import SchemaPress.Text.Basic
import SchemaPress.Text.Literal

/-!
# Compiling TypeScript

The command of the configuration is started with the options of the release, the directory for its
results and the two sources. A compiler that fails is quoted: by what it wrote, or by its command
and status when it wrote nothing.

Which programs there are and what they do is not said here: how one is started is given.
-/

namespace SchemaPress

/-- The signals with their names. -/
def signals : List (Nat × String) :=
  [(1, "HUP"), (2, "INT"), (3, "QUIT"), (4, "ILL"), (5, "TRAP"), (6, "ABRT"), (7, "BUS"), (8, "FPE"),
   (9, "KILL"), (10, "USR1"), (11, "SEGV"), (12, "USR2"), (13, "PIPE"), (14, "ALRM"), (15, "TERM"),
   (16, "STKFLT"), (17, "CHLD"), (18, "CONT"), (19, "STOP"), (20, "TSTP"), (21, "TTIN"), (22, "TTOU"),
   (23, "URG"), (24, "XCPU"), (25, "XFSZ"), (26, "VTALRM"), (27, "PROF"), (28, "WINCH"), (29, "IO"),
   (30, "PWR"), (31, "SYS"), (34, "RTMIN"), (64, "RTMAX")]

namespace Program

/-- How a program ended. -/
inductive Status where
  /-- It ended by itself with this number. -/
  | exited (code : Nat)
  /-- A signal ended it. -/
  | killed (signal : Nat)
deriving DecidableEq, Repr

/-- What is left of a program: its status and what it wrote. -/
structure Ending where
  /-- How it ended. -/
  status : Status
  /-- What it wrote to its output. -/
  output : List UInt8
  /-- What it wrote about its failures. -/
  errors : List UInt8

/-- Starts a program with its arguments, after its name, and waits for its end. What the program does to the
files is part of it. -/
abbrev Start : Type := List String → Task FileFailure Ending

end Program

namespace Compiler

/-- Modules of CommonJS for ES2015, strictly typed, with declarations and JSON modules. -/
def options : List String :=
  ["--target", "es2015", "--module", "commonjs", "--lib", "es2015", "--declaration", "--strict",
   "--esModuleInterop", "--resolveJsonModule"]

/-- The words of the command line. -/
def words (command : List String) (results index schema : Path) : List String :=
  command ++ options ++ ["--outDir", results.text, index.text, schema.text]

/-- The command line as a list of literals. -/
def quoted (words : List String) : String :=
  "[" ++ ", ".intercalate (words.map Text.literal) ++ "]"

/-- What a program wrote, as a text on unified lines. -/
def written (bytes : List UInt8) : Except Crash String :=
  match String.fromUTF8? ⟨bytes.toArray⟩ with
  | some text => .ok (String.ofList (unifyLines text.toList))
  | none => .error .badEncoding

/-- How an unsuccessful program ended. -/
def endingText (words : List String) (status : Program.Status) : String :=
  let command := "Command '" ++ quoted words ++ "'"
  match status with
  | .exited code => command ++ " returned non-zero exit status " ++ toString code ++ "."
  | .killed signal =>
    match signals.find? fun entry => entry.1 = signal with
    | some (_, name) => command ++ " died with <Signals.SIG" ++ name ++ ": " ++ toString signal ++ ">."
    | none => command ++ " died with unknown signal " ++ toString signal ++ "."

/-- The first text that says anything. -/
def firstWritten (texts : List String) (fallback : String) : String :=
  ((texts.map Text.strip).find? fun text => text != "").getD fallback

/-- Compiles the sources. -/
def compile (start : Program.Start) (command : List Json) (results index schema : Path) :
    Task (Stop ReleaseError) Unit := do
  let command ← Task.ofExcept .crash (command.mapM ReleaseError.textOf)
  let words := words command results index schema
  let notStarted (failure : FileFailure) : Stop ReleaseError :=
    match failure with
    | .crash cause => .crash cause
    | failure => .error (.compile ("Failed to execute " ++ words.head?.getD "" ++ ": " ++ failure.message))
  let ending ← Task.wrapFailure notStarted (start words)
  let output ← Task.ofExcept .crash (written ending.output)
  let errors ← Task.ofExcept .crash (written ending.errors)
  if ending.status = .exited 0 then return ()
  else throw (.error (.compile (firstWritten [output, errors] (endingText words ending.status))))

end Compiler

end SchemaPress
