import SchemaPress.Shell.Expansion

/-!
# Redirecting channels

A redirection opens a file for one channel of a command, or lets the channel lead where another one
leads. A file that cannot be opened is told, and the command is not run.
-/

namespace SchemaPress.Shell

/-- Why a file cannot be opened or made, as the shell tells it. -/
def refusalText (missing : String) : FileFailure → String
  | .refused .notFound _ => missing
  | .refused .notDirectory _ => missing
  | .refused refusal _ => refusal.reason
  | .unmoved refusal _ _ => refusal.reason
  | .crash _ => missing

/-- The channel of a device, if the path is one; nothing if a channel is closed. -/
def device? (session : Session) (name : String) : Option (Option Channel) :=
  let shared (number : Nat) : Option (Option Channel) := some (session.channels.lookup number)
  match (session.path name).text with
  | "/dev/null" => some (some .nowhere)
  | "/dev/stdin" | "/dev/fd/0" => shared 0
  | "/dev/stdout" | "/dev/fd/1" => shared 1
  | "/dev/stderr" | "/dev/fd/2" => shared 2
  | _ => none

/-- Opens a file for writing. -/
def openForWriting (append forced : Bool) (name : String) : Act Channel := do
  let session ← get
  let refused (reason : String) : Act Channel :=
    Act.fault 2 ("cannot create " ++ name ++ ": " ++ reason)
  match device? session name with
  | some (some channel) => return channel
  | some none => refused "No such device or address"
  | none =>
    if name.isEmpty then refused "Directory nonexistent"
    else
      match session.tree.walk true (session.path name) with
      | .ok (.entry place (.file _)) =>
        -- Files are kept whole in the tree, and each text that is written goes to their end.
        if append then return .file place
        else if session.has 'C' && !forced then refused "File exists"
        else
          set { session with tree := session.tree.set place (.file .empty) }
          return .file place
      | .ok (.entry _ _) => refused "Is a directory"
      | .ok (.vacant directory last) =>
        if name.endsWith "/" then refused "Is a directory"
        else
          let place := directory ++ [last]
          set { session with tree := session.tree.set place (.file .empty) }
          return .file place
      | .error failure => refused (refusalText "Directory nonexistent" failure)

/-- Opens a text for reading. -/
def openText (text : String) : Act Channel := do
  let (session, number) := (← get).open? text
  set session
  return .stream number

/-- Opens a file for reading. -/
def openForReading (name : String) : Act Channel := do
  let session ← get
  let refused (reason : String) : Act Channel :=
    Act.fault 2 ("cannot open " ++ name ++ ": " ++ reason)
  match device? session name with
  | some (some channel) => return channel
  | some none => refused "No such device or address"
  | none =>
    if name.isEmpty then refused "No such file"
    else
      match session.tree.find (session.path name) with
      | .ok (_, .file bytes) => openText (ofBytes bytes)
      | .ok _ => openText ""
      | .error failure => refused (refusalText "No such file" failure)

/-- Makes a channel lead where another one leads, which a word names. -/
def share (channel : Nat) (word : String) : Act Unit := do
  let session ← get
  match word.toList with
  | ['-'] => set (session.connect channel none)
  | [c] =>
    if c.isDigit then
      match session.channels.lookup (c.toNat - '0'.toNat) with
      | some target => set (session.connect channel (some target))
      | none => Act.fault 2 (word ++ ": Bad file descriptor")
    else Act.fault 2 "Syntax error: Bad fd number"
  | _ => Act.fault 2 "Syntax error: Bad fd number"

/-- A redirection whose word is expanded. -/
structure Opening where
  /-- The channel. -/
  channel : Nat
  /-- What is done. -/
  direction : Direction
  /-- The name of the file or channel, or the text of the document. -/
  text : String

/-- Expands the word of a redirection. A number that is none is a mistake of the script. -/
def expandRedirection (substitute : Command → Act String) : Redirection → Act Opening
  | .of channel (.document number) _ => do
    let word := ((← get).documents.lookup number).getD []
    return ⟨channel, .document number, spelling (← glyphs substitute false false word)⟩
  | .of channel direction word => do
    let text ← expandText substitute word
    let isNumber := match text.toList with
      | [c] => c.isDigit || c == '-'
      | _ => false
    if direction = .share && !isNumber then Act.fault 2 "Syntax error: Bad fd number"
    else return ⟨channel, direction, text⟩

/-- Carries a redirection out. -/
def Opening.perform (opening : Opening) : Act Unit := do
  let connect (channel : Channel) : Act Unit :=
    modify fun session => session.connect opening.channel (some channel)
  match opening.direction with
  | .read | .readWrite => connect (← openForReading opening.text)
  | .write forced => connect (← openForWriting false forced opening.text)
  | .append => connect (← openForWriting true true opening.text)
  | .share => share opening.channel opening.text
  | .document _ => connect (← openText opening.text)

/-- Carries redirections out, and tells whether all of them succeeded. -/
def redirect (openings : List Opening) : Act Bool := do
  tryCatch
    (do
      openings.forM Opening.perform
      return true)
    fun escape => if escape = .fault then return false else throw escape

end SchemaPress.Shell
