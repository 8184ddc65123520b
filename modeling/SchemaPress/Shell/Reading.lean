import SchemaPress.Shell.Source

/-!
# Reading scripts

The grammar of the shell, one function for each of its notions: words with their quotes and
parameters, simple commands, compound commands, pipelines, and lists. Words and commands contain one
another, so all of them are read by one recursion. It takes a bound for its depth, which the length of
the script gives (`Source.depth`).
-/

namespace SchemaPress.Shell

/-- What ends a word or a part of it. -/
inductive Stop where
  /-- A blank or a sign. -/
  | blank
  /-- A double quote. -/
  | quote
  /-- A closing brace; `inner` says that it stands between double quotes of its own. -/
  | brace (inner : Bool)
  /-- Two closing parentheses, outside as many inner pairs. -/
  | parentheses (depth : Nat)
  /-- The end of the text. -/
  | finish
deriving DecidableEq, Repr

/-- The signs that end a word. -/
def isSign (c : Char) : Bool :=
  ['\n', ' ', '\t', '<', '>', ';', '&', '|', '(', ')'].contains c

/-- The commands of the shell that are looked up before functions. -/
def specialNames : List String :=
  [".", ":", "break", "continue", "eval", "exec", "exit", "export", "local", "readonly", "return",
   "set", "shift", "times", "trap", "unset"]

/-- Splits a word that is an assignment. -/
def assignment? (word : Word) : Option (String × Word) :=
  let isPart : Piece → Bool
    | .char c false => isNameChar c
    | _ => false
  let name := word.takeWhile isPart
  match bare? name, word.drop name.length with
  | some chars, .char '=' false :: value =>
    if isName chars then some (String.ofList chars, value) else none
  | _, _ => none

/-- Whether a word is written without quotes. -/
def isUnquoted (word : Word) : Bool :=
  word.all fun piece =>
    match piece with
    | .char _ quoted => !quoted
    | .quotes => false
    | _ => true

/-- The characters of a word as they are written, without its quotes. -/
def spelled (word : Word) : List Char :=
  word.filterMap fun piece =>
    match piece with
    | .char c _ => some c
    | _ => none

/-- One command after another, where nothing to do is left out. -/
def Command.followedBy : Command → Command → Command
  | .nothing, second => second
  | first, second => .sequence first second

namespace Reader

/-! ### Documents -/

/-- A line without the tabs in front of it. -/
def withoutTabs (line : List Char) : List Char :=
  line.dropWhile (· == '\t')

/-- The text up to the last line of a document, and what is behind that line. -/
def documentText (awaited : Awaited) (fuel : Nat) (chars : List Char) : List Char × List Char :=
  match fuel, chars with
  | _, [] => ([], [])
  | 0, _ => ([], chars)
  | fuel + 1, chars =>
    let line := chars.takeWhile (· != '\n')
    let rest := chars.drop line.length
    let line := if awaited.tabless then withoutTabs line else line
    if line == awaited.lastLine then ([], rest.drop 1)
    else
      match rest with
      | [] => (line, [])
      | newline :: rest =>
        let (text, rest) := documentText awaited fuel rest
        (line ++ newline :: text, rest)

/-! ### Quotes -/

/-- The characters up to a single quote. -/
def singleQuoted : Nat → Reader Word
  | 0 => return []
  | fuel + 1 => do
    match ← takeRaw with
    | none => fail "Unterminated quoted string"
    | some '\'' => return []
    | some c => return .char c true :: (← singleQuoted fuel)

/-- The text up to a back quote. A backslash in it keeps its meaning except in front of a back quote,
a dollar sign and another backslash, and of a double quote if the text itself is quoted. -/
def backQuoted (quoted : Bool) : Nat → Reader (List Char)
  | 0 => return []
  | fuel + 1 => do
    match ← take with
    | none => fail "EOF in backquote substitution"
    | some '\x60' => return []
    | some '\\' =>
      match ← takeRaw with
      | none => fail "EOF in backquote substitution"
      | some c =>
        let rest ← backQuoted quoted fuel
        if ['\\', '\x60', '$'].contains c || (quoted && c == '"') then return c :: rest
        else return '\\' :: c :: rest
    | some c => return c :: (← backQuoted quoted fuel)

/-- The piece that a double-quoted text is. Nothing but all arguments stands for no word at all where
there are no arguments; all other quoted texts make a word. -/
def doubleQuoted : Word → Word
  | [.parameter "@" .value word true] => [.parameter "@" .value word true]
  | word => .quotes :: word

/-- What the end of the script means inside a word, which stands between double quotes if `quoted`. -/
def cutShort (quoted : Bool) : Stop → Reader Word
  | .blank => return []
  | .finish => return []
  | .quote => fail "Unterminated quoted string"
  | .brace inner => fail (if inner || quoted then "Unterminated quoted string" else "Missing '\x7d'")
  | .parentheses _ => fail "Missing '))'"

/-- What is asked of a parameter by the signs behind its name, and whether the word behind them is
written outside quotes; nothing if the parameter ends here. -/
def useOf : Reader (Option (Use × Bool)) := do
  let filled ← takeIf ':'
  match ← take with
  | some '-' => return some (.orElse filled, false)
  | some '=' => return some (.orAssign filled, false)
  | some '?' => return some (.orFail filled, false)
  | some '+' => return some (.andThen filled, false)
  | some '\x7d' => return if filled then some (.unknown, false) else none
  | some '%' =>
    if filled then return some (.unknown, false)
    else return some (.trim true (← takeIf '%'), true)
  | some '#' =>
    if filled then return some (.unknown, false)
    else return some (.trim false (← takeIf '#'), true)
  | _ => return some (.unknown, false)

/-- The name of a parameter: of a variable, or of one sign or more digits. -/
def parameterName (fuel : Nat) (c : Char) : Reader String := do
  if isNameStart c then return String.ofList (c :: (← takeWhile isNameChar fuel))
  else if c.isDigit then return String.ofList (c :: (← takeWhile Char.isDigit fuel))
  else return String.singleton c

/-- The name of a parameter behind its opening brace, and whether its size is asked for; nothing
where no name is. -/
def bracedName (fuel : Nat) : Reader (Option (String × Bool)) := do
  match ← peek with
  | none => return none
  | some '\x7d' => return none
  | some '#' => do
    discard take
    match ← peek with
    | none => return some ("#", false)
    | some c =>
      if isNameChar c then
        discard take
        return some (← parameterName fuel c, true)
      else if isSpecialName c then
        -- A sign asks for its size only if the brace closes right behind it.
        let before ← get
        discard take
        if (← peek) == some '\x7d' then return some (String.singleton c, true)
        else
          set before
          return some ("#", false)
      else return some ("#", false)
  | some c =>
    if isNameStart c || isSpecialName c then
      discard take
      return some (← parameterName fuel c, false)
    else
      discard take
      return none

/-! ### Words and commands -/

/-- The next character belongs to a word that goes on, unless it ends it. -/
def tokenOfSign (c : Char) : Reader Token := do
  let double (single twice : String) : Reader Token := do
    return .sign (if ← takeIf c then twice else single)
  match c with
  | '\n' => return .newline
  | '&' => double "&" "&&"
  | '|' => double "|" "||"
  | ';' => double ";" ";;"
  | c => return .sign (String.singleton c)

/-- The sign of redirection that starts with this character. -/
def redirectionToken (channel : Option Nat) (c : Char) : Reader Token := do
  if c == '>' then
    let channel := channel.getD 1
    if ← takeIf '>' then return .redirection channel .append
    else if ← takeIf '|' then return .redirection channel (.write true)
    else if ← takeIf '&' then return .redirection channel .share
    else return .redirection channel (.write false)
  else
    let channel := channel.getD 0
    if ← takeIf '<' then return .document channel (← takeIf '-')
    else if ← takeIf '&' then return .redirection channel .share
    else if ← takeIf '>' then return .redirection channel .readWrite
    else return .redirection channel .read

/-- Skips blanks and comments. -/
def skipBlanks : Nat → Reader Unit
  | 0 => return ()
  | fuel + 1 => do
    match ← peek with
    | some ' ' | some '\t' => do
      discard take
      skipBlanks fuel
    | some '#' =>
      modify fun source => { source with chars := source.chars.dropWhile (· != '\n') }
    | _ => return ()

/-- Tokens may be asked for in two ways: skipping the ends of lines, and telling words apart that
have a meaning of their own. -/
structure Manner where
  /-- Whether the ends of lines are skipped. -/
  overLines : Bool := false
  /-- Whether words with a meaning of their own are told apart. -/
  classified : Bool := false
  /-- Whether a word may be an alias. -/
  aliased : Bool := classified

/-- Which commands a list ends in front of. -/
inductive Extent where
  /-- The list has a command, and ends where a closing token stands. -/
  | block
  /-- The list ends with the line. -/
  | line
  /-- The list may be empty, and ends where a closing token stands. -/
  | loose

mutual

/-- The pieces of a word up to its end. `quoted` says that they stand between double quotes, and
`literal` that no parameter is replaced. -/
def pieces : Nat → Bool → Bool → Stop → Reader Word
  | 0, _, _, _ => return []
  | fuel + 1, quoted, literal, stop => do
    let more (stop : Stop) (front : Word) : Reader Word := do
      return front ++ (← pieces fuel quoted literal stop)
    match ← peek with
    | none => cutShort quoted stop
    | some c =>
      if stop = .blank && isSign c then return []
      else
        discard take
        match c, stop with
        | '\\', _ =>
          match ← takeRaw with
          | none => more stop [.char '\\' true]
          | some d =>
            -- Between double quotes a backslash means something in front of a few characters only.
            let escapes := !quoted || ['\\', '\x60', '$'].contains d ||
              (d == '"' && stop ≠ .finish) || (d == '\x7d' && stop matches .brace _)
            more stop (if escapes then [.char d true] else [.char '\\' true, .char d true])
        | '\x7d', .brace false => return []
        | '"', .quote => return []
        -- In a document and in a sum a double quote is a character like others.
        | '"', .finish => more stop [.char c quoted]
        | '"', .parentheses _ => more stop [.char c quoted]
        | '"', .brace inner =>
          if quoted then more (.brace !inner) [.quotes]
          else more stop (doubleQuoted (← pieces fuel true literal .quote))
        | '"', .blank => more stop (doubleQuoted (← pieces fuel true literal .quote))
        | '(', .parentheses depth => more (.parentheses (depth + 1)) [.char c false]
        | ')', .parentheses 0 =>
          if ← takeIf ')' then return [] else more stop [.char c false]
        | ')', .parentheses (depth + 1) => more (.parentheses depth) [.char c false]
        | '$', stop =>
          if literal then more stop [.char c quoted] else more stop (← dollar fuel quoted)
        | '\x60', stop =>
          if literal then more stop [.char c quoted]
          else
            -- What stands between back quotes is a script of its own, whose lines start at one.
            let text ← backQuoted quoted (← patience)
            let source ← get
            set { source with chars := text, ahead := none, line := 1 }
            let command ← list fuel .loose .nothing
            let inner ← get
            set { source with documents := inner.documents, nextDocument := inner.nextDocument }
            more stop [.output (command.getD .nothing) quoted]
        | '\'', stop =>
          if quoted || stop matches .parentheses _ then more stop [.char c quoted]
          else more stop (.quotes :: (← singleQuoted (← patience)))
        | c, .parentheses _ => more stop [.char c false]
        | c, stop => more stop [.char c quoted]

/-- The pieces that a dollar sign begins. -/
def dollar : Nat → Bool → Reader Word
  | 0, _ => return []
  | fuel + 1, quoted => do
    match ← peek with
    | none => return [.char '$' quoted]
    | some '(' =>
      discard take
      -- Two opening parentheses begin a sum, whatever they close.
      if ← takeIf '(' then return [.sum (← pieces fuel true false (.parentheses 0)) quoted]
      else
        let command ← list fuel .loose .nothing
        match ← token fuel {} with
        | .sign ")" => return [.output (command.getD .nothing) quoted]
        | other => expected other (.sign ")")
    | some '\x7b' =>
      discard take
      match ← bracedName fuel with
      | none =>
        return [.parameter "" .unknown (← pieces fuel quoted false (.brace false)) quoted]
      | some (name, true) =>
        if ← takeIf '\x7d' then return [.parameter name .size [] quoted]
        else return [.parameter name .unknown (← pieces fuel quoted false (.brace false)) quoted]
      | some (name, false) =>
        match ← useOf with
        | none => return [.parameter name .value [] quoted]
        | some (use, outside) =>
          let word ← pieces fuel (quoted && !outside) false (.brace false)
          return [.parameter name use word quoted]
    | some c =>
      if isNameStart c then
        discard take
        return [.parameter (← parameterName fuel c) .value [] quoted]
      else if isSpecialName c then
        discard take
        return [.parameter (String.singleton c) .value [] quoted]
      else return [.char '$' quoted]

/-- The next token. -/
def token : Nat → Manner → Reader Token
  | 0, _ => return .finish
  | fuel + 1, manner => do
    let source ← get
    let found ← match source.ahead with
      | some found => do
        set { source with ahead := none }
        pure found
      | none => freshToken fuel
    let found := if manner.classified then found.classify else found
    match found with
    | .newline => if manner.overLines then token fuel manner else return found
    | .word word => do
      let mayBeAlias := manner.aliased || (← followsAlias source.chars.length)
      match ← aliasText? word with
      | some (name, text) =>
        if mayBeAlias then
          putAlias name text
          token fuel manner
        else return found
      | none => return found
    | found => return found

/-- The next token of the text. -/
def freshToken : Nat → Reader Token
  | 0 => return .finish
  | fuel + 1 => do
    skipBlanks (← patience)
    match ← peek with
    | none =>
      documents fuel
      return .finish
    | some '<' | some '>' =>
      match ← take with
      | some c => redirectionToken none c
      | none => return .finish
    | some c =>
      if isSign c then
        discard take
        let found ← tokenOfSign c
        if c == '\n' then documents fuel
        return found
      else
        let word ← pieces fuel false false .blank
        match word, ← peek with
        | [.char d false], some c =>
          if d.isDigit && (c == '<' || c == '>') then
            discard take
            redirectionToken (some (d.toNat - '0'.toNat)) c
          else return .word word
        | word, _ => return .word word

/-- Reads the documents that have been announced. -/
def documents : Nat → Reader Unit
  | 0 => return ()
  | fuel + 1 => do
    let source ← get
    match source.awaited.getLast? with
    | none => return ()
    | some awaited =>
      let (text, rest) := documentText awaited source.chars.length source.chars
      let lines := (source.chars.take (source.chars.length - rest.length)).count '\n'
      let word ← if awaited.plain then pure (text.map (Piece.char · true)) else do
        set { source with chars := text, awaited := [] }
        pieces fuel true false .finish
      let inner ← get
      set { source with
        chars := rest
        line := source.line + lines
        awaited := source.awaited.dropLast
        documents := (awaited.number, word) :: inner.documents
        nextDocument := inner.nextDocument }
      documents fuel

/-- The redirection that a sign begins; nothing if the token is no such sign. -/
def redirection? : Nat → Token → Reader (Option Redirection)
  | 0, _ => return none
  | fuel + 1, .redirection channel direction => do
    match ← token fuel {} with
    | .word word => return some (.of channel direction word)
    | other => unexpected other
  | fuel + 1, .document channel tabless => do
    skipBlanks (← patience)
    match ← peek with
    | some c =>
      if isSign c then unexpected (← token fuel {})
      else
        let word ← pieces fuel false true .blank
        modify fun source => { source with
          awaited := ⟨source.nextDocument, spelled word, !isUnquoted word, tabless⟩ :: source.awaited
          nextDocument := source.nextDocument + 1 }
        return some (.of channel (.document ((← get).nextDocument - 1)) [])
    | none => unexpected .finish
  | _ + 1, _ => return none

/-- The redirections behind a compound command. -/
def redirections : Nat → Reader (List Redirection)
  | 0 => return []
  | fuel + 1 => do
    let next ← token fuel { classified := true }
    match ← redirection? fuel next with
    | some redirection => return redirection :: (← redirections fuel)
    | none =>
      giveBack next
      return []

/-- The words of a list for a loop. -/
def words : Nat → Reader (List Word)
  | 0 => return []
  | fuel + 1 => do
    match ← token fuel {} with
    | .word word => return word :: (← words fuel)
    | .newline => return []
    | .sign ";" => return []
    | other => unexpected other

/-- A simple command or a definition, behind the assignments, words and redirections read so far. -/
def simple : Nat → Nat → List (String × Word) → List Word → List Redirection → Reader Command
  | 0, _, _, _, _ => return .nothing
  | fuel + 1, line, assignments, words, redirected => do
    let next ← token fuel { aliased := words.isEmpty }
    match next, words with
    | .word word, words =>
      match words, assignment? word with
      -- Only in front of the first word a word such as `x=1` is an assignment.
      | [], some assignment =>
        simple fuel line (assignments ++ [assignment]) words redirected
      | words, _ => simple fuel line assignments (words ++ [word]) redirected
    | .sign "(", [name] =>
      if assignments.isEmpty && redirected.isEmpty then
        match ← token fuel {} with
        | .sign ")" =>
          match bare? name with
          | some chars =>
            if isName chars && !specialNames.contains (String.ofList chars) then
              return .function (String.ofList chars)
                (← command fuel { overLines := true, classified := true })
            else fail "Bad function name"
          | none => fail "Bad function name"
        | other => expected other (.sign ")")
      else
        giveBack next
        return .simple line assignments words redirected
    | next, words =>
      match ← redirection? fuel next with
      | some redirection =>
        simple fuel line assignments words (redirected ++ [redirection])
      | none =>
        giveBack next
        return .simple line assignments words redirected

/-- The branches of a choice. -/
def branches : Nat → Reader (List Branch)
  | 0 => return []
  | fuel + 1 => do
    let manner : Manner := { overLines := true, classified := true, aliased := false }
    match ← token fuel manner with
    | .keyword "esac" => return []
    | first =>
      let first ← match first with
        | .sign "(" => token fuel {}
        | first => pure first
      let patterns ← patternsFrom fuel first
      let body := (← list fuel .loose .nothing).getD .nothing
      match ← token fuel manner with
      | .keyword "esac" => return [.of patterns body]
      | .sign ";;" => return .of patterns body :: (← branches fuel)
      | other => expected other (.sign ";;")

/-- The patterns of a branch, the first of which begins with the given token. -/
def patternsFrom : Nat → Token → Reader (List Word)
  | 0, _ => return []
  | fuel + 1, first => do
    let pattern := match first with
      | .word word => word
      | .keyword text => text.toList.map (Piece.char · false)
      | _ => []
    match ← token fuel {} with
    | .sign "|" => return pattern :: (← patternsFrom fuel (← token fuel {}))
    | .sign ")" => return [pattern]
    | other => expected other (.sign ")")

/-- What follows the condition of a branch of an `if`, up to its end. -/
def conditionalFrom : Nat → Reader Command
  | 0 => return .nothing
  | fuel + 1 => do
    let test := (← list fuel .block .nothing).getD .nothing
    match ← token fuel {} with
    | .keyword "then" =>
      let whenTrue := (← list fuel .block .nothing).getD .nothing
      match ← token fuel {} with
      | .keyword "elif" => return .conditional test whenTrue (← conditionalFrom fuel)
      | .keyword "else" =>
        let whenFalse := (← list fuel .block .nothing).getD .nothing
        close fuel "fi" (.conditional test whenTrue whenFalse)
      | other =>
        giveBack other
        close fuel "fi" (.conditional test whenTrue .nothing)
    | other => expected other (.keyword "then")

/-- The command, behind which its closing word has to stand. -/
def close : Nat → String → Command → Reader Command
  | 0, _, command => return command
  | fuel + 1, text, command => do
    match ← token fuel {} with
    | .keyword found => if found == text then return command else expected (.keyword found) (.keyword text)
    | other => expected other (.keyword text)

/-- A list between two words. -/
def enclosed : Nat → String → String → Reader Command
  | 0, _, _ => return .nothing
  | fuel + 1, opening, closing => do
    match ← token fuel { overLines := true, classified := true } with
    | .keyword found =>
      if found == opening then
        close fuel closing ((← list fuel .block .nothing).getD .nothing)
      else expected (.keyword found) (.keyword opening)
    | other => expected other (.keyword opening)

/-- A command. -/
def command : Nat → Manner → Reader Command
  | 0, _ => return .nothing
  | fuel + 1, manner => do
    let line := (← get).line
    let compound (found : Command) : Reader Command := do
      match ← redirections fuel with
      | [] => return found
      | redirected =>
        match found with
        | .subshell line inner _ => return .subshell line inner redirected
        | found => return .redirected line found redirected
    match ← token fuel { manner with classified := true } with
    | .keyword "if" => compound (← conditionalFrom fuel)
    | .keyword "while" => loopFrom fuel false >>= compound
    | .keyword "until" => loopFrom fuel true >>= compound
    | .keyword "for" => eachFrom fuel line >>= compound
    | .keyword "case" =>
      match ← token fuel {} with
      | .word subject =>
        match ← token fuel { overLines := true, classified := true } with
        | .keyword "in" => compound (.choice line subject (← branches fuel))
        | other => expected other (.keyword "in")
      | other => expected other (.word [])
    | .keyword "\x7b" =>
      compound (← close fuel "\x7d" ((← list fuel .block .nothing).getD .nothing))
    | .sign "(" =>
      let inner := (← list fuel .block .nothing).getD .nothing
      match ← token fuel {} with
      | .sign ")" => compound (.subshell line inner [])
      | other => expected other (.sign ")")
    | .keyword found => unexpected (.keyword found)
    | .sign found => unexpected (.sign found)
    | .newline => unexpected .newline
    | .finish => unexpected .finish
    | first =>
      giveBack first
      simple fuel line [] [] []

/-- What follows the word that opens a loop with a test. -/
def loopFrom : Nat → Bool → Reader Command
  | 0, _ => return .nothing
  | fuel + 1, negated => do
    let test := (← list fuel .block .nothing).getD .nothing
    match ← token fuel {} with
    | .keyword "do" =>
      let body := (← list fuel .block .nothing).getD .nothing
      close fuel "done" (.loop negated test body)
    | other => expected other (.keyword "do")

/-- What follows the word that opens a loop over words. -/
def eachFrom : Nat → Nat → Reader Command
  | 0, _ => return .nothing
  | fuel + 1, line => do
    match ← token fuel {} with
    | .word name =>
      match bare? name with
      | some chars =>
        if isName chars then
          let list ← match ← token fuel { overLines := true, classified := true } with
            | .keyword "in" => do pure (some (← words fuel))
            | .sign ";" => pure none
            | other => do
              giveBack other
              pure none
          return .each line (String.ofList chars) list (← enclosed fuel "do" "done")
        else fail "Bad for loop variable"
      | none => fail "Bad for loop variable"
    | _ => fail "Bad for loop variable"

/-- The commands behind the first one of a pipeline. -/
def piped : Nat → Reader (List Command)
  | 0 => return []
  | fuel + 1 => do
    match ← token fuel {} with
    | .sign "|" =>
      let next ← command fuel { overLines := true }
      return next :: (← piped fuel)
    | other =>
      giveBack other
      return []

/-- A pipeline. -/
def pipeline : Nat → Manner → Reader Command
  | 0, _ => return .nothing
  | fuel + 1, manner => do
    let whole (first : Command) : Reader Command := do
      match ← piped fuel with
      | [] => return first
      | rest => return .pipe (first :: rest)
    match ← token fuel { manner with classified := true } with
    | .keyword "!" => return .negation (← whole (← command fuel {}))
    | other =>
      giveBack other
      whole (← command fuel {})

/-- Pipelines that depend on one another, the first of which has been read. -/
def chained : Nat → Command → Reader Command
  | 0, first => return first
  | fuel + 1, first => do
    match ← token fuel {} with
    | .sign "&&" => chained fuel (.both first (← pipeline fuel { overLines := true }))
    | .sign "||" => chained fuel (.either first (← pipeline fuel { overLines := true }))
    | other =>
      giveBack other
      return first

/-- A list of commands behind those that were read so far; nothing where a script ends in place of a
line. -/
def list : Nat → Extent → Command → Reader (Option Command)
  | 0, _, read => return some read
  | fuel + 1, extent, read => do
    let overLines := !(extent matches .line)
    match ← token fuel { overLines, classified := true } with
    -- The end of a line ends the list that is the line; others skip it.
    | .newline => return some read
    | .finish =>
      giveBack .finish
      match extent, read with
      | .line, .nothing => return none
      | _, read => return some read
    | first =>
      giveBack first
      if extent matches .loose && first.endsList then return some read
      else
        let next ← chained fuel (← pipeline fuel {})
        let extent := match extent with
          | .line => .line
          | _ => .loose
        match ← token fuel {} with
        | .sign "&" => list fuel extent (read.followedBy (.background next))
        | .sign ";" => list fuel extent (read.followedBy next)
        | .newline =>
          giveBack .newline
          list fuel extent (read.followedBy next)
        | .finish =>
          giveBack .finish
          return some (read.followedBy next)
        | other =>
          match extent with
          | .line => unexpected other
          | _ =>
            giveBack other
            return some (read.followedBy next)

end

end Reader

/-- A bound for the depth of the reading of a script, in which words may be replaced by aliases. -/
def Source.depth (source : Source) : Nat :=
  16 * source.chars.length * source.aliases.foldl (fun size (_, text) => size + text.length) 1 + 64

/-- Reads the commands of the next line; nothing at the end of the script. -/
def Source.nextLine (source : Source) : Except Misreading (Option Command × Source) :=
  (Reader.list source.depth .line .nothing).run { source with ahead := none, expanding := [] }

end SchemaPress.Shell
