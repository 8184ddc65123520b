import SchemaPress.Files.Writer
import SchemaPress.SourceCheck.Lexer
import SchemaPress.SourceCheck.Quoted
import SchemaPress.SourceCheck.Statement

/-!
# Whether a source may be written

A source is read twice at most: first by the grammar alone, and when no rule fits, once more with the
patterns of complaints. What a complaint finds is said; without one, the last token of the first
reading is wrong. A fault of the lexer counts more than what the grammar finds, if it is loud, and a
bracket that is never closed counts more than what is found below it.
-/

namespace SchemaPress.SourceCheck

/-- The fault that is told, when the grammar has found one after it has looked at a token on a line. -/
def Ending.told (ending : Ending) (line : Nat) (fault : Fault) : Fault :=
  match ending with
  | .broken worse => worse
  | .stuck _ (some opened) => if opened.2 < line then .neverClosed opened else fault
  | _ => fault

/-- The fault at the end of the tokens, for a reader that comes to it. Only what the grammar says is
said with the words of `lead`. -/
def Ending.fault? (ending : Ending) (lead : String) : Option Fault :=
  match ending with
  | .complete => none
  | .broken fault => some fault
  | .stuck fault _ => some { fault with reason := lead ++ fault.reason }

namespace Source

/-- Reads a rule from the first token on. -/
def start (source : Source Rule) (rule : Rule) (complaining : Bool) (reached : Nat) :
    Except Halt Outcome × Progress Rule :=
  let fuel := 1000 * (source.tokens.size + 1)
  (source.read fuel complaining (.rule rule) 0).run.run ⟨∅, reached⟩

/-- The fault that a reading has ended with. -/
def haltFault? (source : Source Rule) (ending : Ending) (lead : String) (reached : Nat) :
    Halt → Option Fault
  | .exhausted => ending.fault? lead
  | .within fault => ending.told (source.line (reached - 1)) fault
  | .fault fault =>
    ending.told (source.line (reached - 1)) { fault with reason := lead ++ fault.reason }

/-- The fault of tokens that match no rule, where the first reading has looked at some of them. -/
def mismatch? (source : Source Rule) (ending : Ending) (lead : String) (rule : Rule)
    (reached : Nat) : Option Fault :=
  match source.start rule true reached with
  | (.error halt, progress) => source.haltFault? ending lead progress.reached halt
  | (.ok _, progress) =>
    let line := source.line (progress.reached - 1)
    match source.tokens[reached - 1]? with
    | some token =>
      if token.kind = .indent then some ⟨lead ++ "unexpected indent", line⟩
      else if token.kind = .dedent then some ⟨lead ++ "unexpected unindent", line⟩
      else some (ending.told line ⟨lead ++ "invalid syntax", token.line⟩)
    | none => ending.fault? lead

end Source

/-- The fault of a source that begins on a line. Sources lie within texts within sources, at most as
deep as `depth` tells. -/
def fault? (lead : String) (rule : Rule) : Nat → Nat → List Char → Option Fault
  | 0, _, _ => none
  | depth + 1, line, text =>
    let (tokens, ending) := tokens line text
    let source : Source Rule :=
      { tokens := tokens.toArray
        grammar := Rule.form
        keeps := Rule.keeps
        callTexts := callTexts fun inner line => fault? "f-string: " .embedded depth line inner }
    match source.start rule false 0 with
    | (.ok (.found _ _), _) => none
    | (.ok _, progress) => source.mismatch? ending lead rule progress.reached
    | (.error halt, progress) => source.haltFault? ending lead progress.reached halt

/-- Checks that a source can be written. -/
def check (text : String) : Except WriteFailure Unit :=
  if text.toList.contains '\x00' then .error (.file (.crash .badValue))
  else
    match fault? "" .file (text.length + 1) 1 text.toList with
    | some fault => .error (.invalid ("Generated Python code is not valid: " ++ fault.message))
    | none => .ok ()

end SchemaPress.SourceCheck
