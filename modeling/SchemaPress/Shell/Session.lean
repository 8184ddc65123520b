import SchemaPress.Files.Change
import SchemaPress.Shell.Command
import SchemaPress.Text.Utf8

/-!
# Shells at work

What a shell knows while it runs: the files, its variables and options, and where its channels lead.
What a command does is an `Act`, a change of the session that may be cut short: by leaving a loop or
a function, by a mistake, or by the end of the shell.
-/

namespace SchemaPress.Shell

/-! ### Bytes as characters -/

/-- A text as the shell sees it: one character for each byte. -/
def ofText (text : String) : String :=
  String.ofList (text.toUTF8.toList.map fun byte => Char.ofNat byte.toNat)

/-- The text of bytes that are kept as characters. -/
def toText (bytes : String) : String :=
  String.ofList (Text.decodeLossy (bytes.toList.map Char.toNat))

/-- The bytes of a text of the shell. -/
def toBytes (text : String) : List UInt8 :=
  text.toList.map fun c => c.toNat.toUInt8

/-- Bytes as a text of the shell. -/
def ofBytes (bytes : ByteArray) : String :=
  String.ofList (bytes.toList.map fun byte => Char.ofNat byte.toNat)

/-! ### Sessions -/

/-- A variable. -/
structure Variable where
  /-- Its value, if it has one. -/
  value : Option String := none
  /-- Whether the programs that are started see it. -/
  exported : Bool := false
  /-- Whether it keeps its value for good. -/
  fixed : Bool := false
deriving Inhabited

/-- Where a channel leads. -/
inductive Channel where
  /-- To the stream of this number. -/
  | stream (number : Nat)
  /-- Into the file at this place. -/
  | file (place : Location)
  /-- From or into nothing. -/
  | nowhere
deriving DecidableEq

/-- A shell at work. -/
structure Session where
  /-- The files. -/
  tree : Tree
  /-- The working directory. -/
  directory : Location
  /-- What went into the streams and is not read yet. -/
  streams : Array String := #["", "", ""]
  /-- Where the channels lead. -/
  channels : List (Nat × Channel) := [(0, .stream 0), (1, .stream 1), (2, .stream 2)]
  /-- The name of the shell. -/
  name : String
  /-- The arguments. -/
  arguments : List String := []
  /-- The variables. -/
  bindings : List (String × Variable) := []
  /-- The variables as they were before a function made them its own, for each function at work. -/
  hidden : List (List (String × Option Variable)) := []
  /-- The functions. -/
  functions : List (String × Command) := []
  /-- The aliases with their texts. -/
  aliases : List (String × String) := []
  /-- The letters of the options that are set. -/
  options : List Char := []
  /-- The rights that new files are not given, as three octal digits. -/
  mask : List Char := ['0', '2', '2']
  /-- What is done when a signal comes, or for zero when the shell ends. -/
  traps : List (Nat × String) := []
  /-- The documents of the scripts that were read. -/
  documents : List (Nat × Word) := []
  /-- The number of the next document. -/
  nextDocument : Nat := 0
  /-- The status of the last command. -/
  status : Nat := 0
  /-- The status of the last command whose output became part of a word. -/
  inner : Nat := 0
  /-- The line that complaints quote. -/
  line : Nat := 1
  /-- The command of the shell that is at work. -/
  command : Option String := none
  /-- The number of loops at work. -/
  loops : Nat := 0
  /-- The number of functions at work. -/
  calls : Nat := 0
  /-- The statuses of the commands that were sent to the background, the first one first. -/
  jobs : List Nat := []
  /-- Whether something depends on the status of the command at work, so that its failure is no
  reason to end the shell. -/
  tested : Bool := false
  /-- The signal that ended the shell. -/
  signal : Option Nat := none

/-- Why a command is cut short. -/
inductive Escape where
  /-- As many loops are left; the last one goes on with its next round if `again`. -/
  | leave (loops : Nat) (again : Bool)
  /-- The function is left. -/
  | back
  /-- A mistake, which ends the shell unless the command makes up for it. -/
  | fault
  /-- The shell ends. -/
  | stop
deriving DecidableEq, Repr

/-- Something that a shell does. -/
abbrev Act (α : Type) : Type := ExceptT Escape (StateM Session) α

namespace Session

/-- Whether an option is set. -/
def has (session : Session) (option : Char) : Bool :=
  session.options.contains option

/-- The path that a text spells in the working directory. -/
def path (session : Session) (text : String) : Path :=
  (Path.ofLocation session.directory).child (toText text)

/-- The number of the process of a shell. -/
def processNumber : Nat := 1000

/-- The status of the job with a process number. -/
def jobOf? (session : Session) (number : Nat) : Option Nat :=
  if processNumber < number then session.jobs[number - processNumber - 1]? else none

/-- The value of a variable. -/
def value? (session : Session) (name : String) : Option String :=
  (session.bindings.lookup name).bind Variable.value

/-- The session with a variable in place of an older one, as the last of its variables. -/
def put (session : Session) (name : String) (entry : Variable) : Session :=
  { session with
    bindings := (session.bindings.filter fun other => other.1 != name) ++ [(name, entry)] }

/-- The session without a variable. -/
def drop (session : Session) (name : String) : Session :=
  { session with bindings := session.bindings.filter fun entry => entry.1 != name }

/-- The variables that programs see. -/
def environment (session : Session) : List (String × String) :=
  session.bindings.filterMap fun (name, entry) =>
    if entry.exported then entry.value.map (name, ·) else none

/-- The characters that separate words. -/
def separators (session : Session) : List Char :=
  match session.value? "IFS" with
  | some text => text.toList
  | none => [' ', '\t', '\n']

/-- The session with text added where a channel leads; nothing if the channel is closed. -/
def write? (session : Session) (channel : Nat) (text : String) : Option Session :=
  match session.channels.lookup channel with
  | none => none
  | some .nowhere => some session
  | some (.stream number) =>
    some { session with streams := session.streams.modify number (· ++ text) }
  | some (.file place) =>
    match session.tree.get? place with
    | some (.file before) =>
      some { session with tree := session.tree.set place (.file (before ++ ⟨(toBytes text).toArray⟩)) }
    | _ => some session

/-- What can be read from a channel. -/
def readable (session : Session) (channel : Nat) : String :=
  match session.channels.lookup channel with
  | some (.stream number) => session.streams[number]?.getD ""
  | _ => ""

/-- The session with the rest of what can be read from a channel. -/
def leave (session : Session) (channel : Nat) (rest : String) : Session :=
  match session.channels.lookup channel with
  | some (.stream number) => { session with streams := session.streams.modify number fun _ => rest }
  | _ => session

/-- The session with a new stream, and its number. -/
def open? (session : Session) (text : String) : Session × Nat :=
  ({ session with streams := session.streams.push text }, session.streams.size)

/-- The session with a channel that leads elsewhere. -/
def connect (session : Session) (number : Nat) (channel : Option Channel) : Session :=
  let others := session.channels.filter fun entry => entry.1 != number
  match channel with
  | some channel => { session with channels := (number, channel) :: others }
  | none => { session with channels := others }

/-- What is left of a session when a part of it that could not change the shell is done: the files
and what was written. -/
def after (session inner : Session) : Session :=
  { session with tree := inner.tree, streams := inner.streams, status := inner.status }

end Session

namespace Act

/-- Writes text into a channel. -/
def write (channel : Nat) (text : String) : Act Unit :=
  modify fun session => (session.write? channel text).getD session

/-- Writes a complaint as it is. -/
def report (text : String) : Act Unit :=
  write 2 (text ++ "\n")

/-- Complains in the name of the shell, and of its command if one is at work. -/
def complain (text : String) : Act Unit := do
  let session ← get
  let speaker := match session.command with
    | some command => command ++ ": "
    | none => ""
  report (session.name ++ ": " ++ toString session.line ++ ": " ++ speaker ++ text)

/-- Sets the status. -/
def finish (status : Nat) : Act Unit :=
  modify fun session => { session with status }

/-- Complains about a mistake, which sets the status. -/
def fault {α : Type} (status : Nat) (text : String) : Act α := do
  complain text
  finish status
  throw .fault

/-- Gives a variable a value. -/
def assign (name value : String) : Act Unit := do
  let session ← get
  let entry := (session.bindings.lookup name).getD {}
  if entry.fixed then fault 2 (name ++ ": is read only")
  else
    let exported := entry.exported || session.has 'a'
    set (session.put name { entry with value := some value, exported })

/-- Does something with the rest of the session put back as it was before, as a subshell does. Its end
and its mistakes are its own. -/
def apart (act : Act Unit) : Act Unit := do
  let session ← get
  let (_, inner) := (ExceptT.run act).run { session with loops := 0 }
  set (session.after inner)

/-- Does something and restores the channels, however it ends. -/
def restoringChannels {α : Type} (act : Act α) : Act α := do
  let channels := (← get).channels
  ExceptT.mk do
    let result ← ExceptT.run act
    modify fun session => { session with channels }
    return result

/-- Does something in the name of a command of the shell. -/
def as {α : Type} (command : String) (act : Act α) : Act α := do
  let before := (← get).command
  ExceptT.mk do
    modify fun session => { session with command := some command }
    let result ← ExceptT.run act
    modify fun session => { session with command := before }
    return result

/-- Does something, and goes on behind a mistake. -/
def forgiving (act : Act Unit) : Act Unit :=
  tryCatch act fun escape => if escape = .fault then pure () else throw escape

end Act

end SchemaPress.Shell
