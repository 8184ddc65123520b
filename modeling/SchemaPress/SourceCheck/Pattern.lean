import Std.Data.HashMap
import SchemaPress.Keyword
import SchemaPress.SourceCheck.Part
import SchemaPress.SourceCheck.Token

/-!
# Patterns of tokens

A grammar is data: a `Pattern` for each of its rules. Alternatives are tried in their order and the
first one that matches is taken, so a pattern matches at a position in one way at most. Patterns of
complaints match what is known to be wrong; they count only in a second reading, when the first one
has failed, so they decide what is said of a source and never whether it is accepted.

A reading remembers how far it has looked. A source that no rule fits is wrong at the last token that
was looked at (`Progress.reached`).
-/

namespace SchemaPress.SourceCheck

/-- What a complaint can be made of. -/
structure Findings where
  /-- The parts of what was matched. -/
  parts : List Part
  /-- The last token of what was matched. -/
  last : Token
  /-- The line of the last token that was looked at. -/
  reached : Nat

/-- A pattern of tokens, with references to rules of type `ρ`. -/
inductive Pattern (ρ : Type) where
  /-- A word or a sign. -/
  | literal (text : String)
  /-- A token of a kind. -/
  | kind (kind : Kind)
  /-- A word that is no keyword; it is a part. -/
  | name
  /-- Texts one after the other; together they are a part. -/
  | texts
  /-- What a rule matches. -/
  | rule (name : ρ)
  /-- One after the other. -/
  | seq (patterns : List (Pattern ρ))
  /-- The first one that matches. -/
  | either (patterns : List (Pattern ρ))
  /-- As often as it matches. -/
  | many (pattern : Pattern ρ)
  /-- What follows matches; nothing of it is taken. -/
  | ahead (pattern : Pattern ρ)
  /-- What follows does not match. -/
  | notAhead (pattern : Pattern ρ)
  /-- The later alternatives are not tried any more. -/
  | commit
  /-- A sign that has to follow. -/
  | forced (text : String)
  /-- What is matched is one part. -/
  | part (what : What) (pattern : Pattern ρ)
  /-- What is matched is one part, if it has more than one. -/
  | joined (what : What) (pattern : Pattern ρ)
  /-- What is matched is as its last part. -/
  | last (pattern : Pattern ρ)
  /-- The parts do not matter. -/
  | plain (pattern : Pattern ρ)
  /-- Without complaints. -/
  | calm (pattern : Pattern ρ)
  /-- What is matched is wrong, if the findings have a fault. A hasty complaint counts in every
  reading. -/
  | complaint (hasty : Bool) (pattern : Pattern ρ) (fault? : Findings → Option Fault)

/-- A text alone is a pattern for a word or a sign. -/
instance {ρ : Type} : Coe String (Pattern ρ) := ⟨.literal⟩

namespace Pattern

variable {ρ : Type}

/-- A pattern that need not match. -/
def maybe (pattern : Pattern ρ) : Pattern ρ :=
  .either [pattern, .seq []]

/-- A pattern that matches once or more. -/
def some1 (pattern : Pattern ρ) : Pattern ρ :=
  .seq [pattern, .many pattern]

/-- A pattern that matches once or more, with separators between. -/
def separated (separator : String) (pattern : Pattern ρ) : Pattern ρ :=
  .seq [pattern, .many (.seq [separator, pattern])]

/-- A literal that is a part. -/
def marked (text : String) : Pattern ρ :=
  .part (.value text) (.literal text)

/-- The findings are wrong at the line of their first part. -/
def faultAtStart? (reason : String) (findings : Findings) : Option Fault :=
  findings.parts.head?.map fun part => ⟨reason, part.line⟩

/-- What is matched is wrong at the line of its first part. -/
def wrong (reason : String) (pattern : Pattern ρ) : Pattern ρ :=
  .complaint false pattern (faultAtStart? reason)

/-- What is matched is wrong at the line of its first part, in every reading. -/
def wrongAtOnce (reason : String) (pattern : Pattern ρ) : Pattern ρ :=
  .complaint true pattern (faultAtStart? reason)

/-- What is matched is wrong at the line that was reached. -/
def wrongThere (reason : String) (pattern : Pattern ρ) : Pattern ρ :=
  .complaint false pattern fun findings => some ⟨reason, findings.reached⟩

end Pattern

/-- What a reading has learned. -/
structure Progress (ρ : Type) [BEq ρ] [Hashable ρ] where
  /-- What is known of a rule at a position: where it ends and its parts, or that it does not match. -/
  known : Std.HashMap (ρ × Nat) (Option (Nat × List Part))
  /-- The number of tokens that were looked at. -/
  reached : Nat

/-- Why a reading ends before its time. -/
inductive Halt where
  /-- The tokens are at their end. -/
  | exhausted
  /-- A fault was found. -/
  | fault (fault : Fault)
  /-- A fault was found in a source within a text. -/
  | within (fault : Fault)

/-- A reading of tokens. -/
abbrev Reading (ρ : Type) [BEq ρ] [Hashable ρ] : Type → Type :=
  ExceptT Halt (StateM (Progress ρ))

/-- What a pattern makes of the tokens at a position. -/
inductive Outcome where
  /-- It does not match. -/
  | absent
  /-- It does not match, and the alternatives to it are not tried. -/
  | never
  /-- It matches up to a position, and has parts. -/
  | found (next : Nat) (parts : List Part)

/-- What is read, and the grammar that it is read by. -/
structure Source (ρ : Type) where
  /-- The tokens. -/
  tokens : Array Token
  /-- The patterns of the rules. -/
  grammar : ρ → Pattern ρ
  /-- Whether what is known of a rule is kept. -/
  keeps : ρ → Bool
  /-- What some texts in a row are called, unless they are wrong; the line is the one reached. -/
  callTexts : List Token → Nat → Except Halt String

namespace Source

variable {ρ : Type} [BEq ρ] [Hashable ρ]

/-- The token at a position. -/
def token (source : Source ρ) (position : Nat) : Reading ρ Token := do
  match source.tokens[position]? with
  | some token =>
    modify fun progress => { progress with reached := max progress.reached (position + 1) }
    return token
  | none => throw .exhausted

/-- The line of a token. -/
def line (source : Source ρ) (position : Nat) : Nat :=
  (source.tokens[position]?.map Token.line).getD 0

/-- The line that was reached. -/
def reached (source : Source ρ) : Reading ρ Nat := do
  return source.line ((← get).reached - 1)

/-- Reads the token at a position, if it has a property. -/
def satisfying (source : Source ρ) (position : Nat) (accepts : Token → Bool) : Reading ρ Outcome := do
  let token ← source.token position
  return if accepts token then .found (position + 1) [] else .absent

/-- Reads patterns one after the other. -/
def inSequence (read : Pattern ρ → Nat → Reading ρ Outcome) :
    List (Pattern ρ) → Bool → Nat → List Part → Reading ρ Outcome
  | [], _, position, parts => return .found position parts
  | .commit :: rest, _, position, parts => inSequence read rest true position parts
  | pattern :: rest, committed, position, parts => do
    match ← read pattern position with
    | .found next more => inSequence read rest committed next (parts ++ more)
    | .absent => return if committed then .never else .absent
    | .never => return .never

/-- Reads the first one of some patterns that matches. -/
def firstOf (read : Pattern ρ → Nat → Reading ρ Outcome) :
    List (Pattern ρ) → Nat → Reading ρ Outcome
  | [], _ => return .absent
  | pattern :: rest, position => do
    match ← read pattern position with
    | .absent => firstOf read rest position
    | .never => return .absent
    | outcome => return outcome

/-- Reads a pattern as often as it matches, at most as often as `tries` tells. -/
def repeatedly (read : Nat → Reading ρ Outcome) (tries position : Nat) (parts : List Part) :
    Reading ρ Outcome :=
  match tries with
  | 0 => return .found position parts
  | tries + 1 => do
    match ← read position with
    | .found next more =>
      if next ≤ position then return .found position parts
      else repeatedly read tries next (parts ++ more)
    | _ => return .found position parts

/-- The position behind the texts in a row. -/
def afterTexts (source : Source ρ) (tries position : Nat) : Reading ρ Nat :=
  match tries with
  | 0 => return position
  | tries + 1 => do
    if (← source.token position).kind = .text then source.afterTexts tries (position + 1)
    else return position

/-- Reads texts in a row. -/
def readTexts (source : Source ρ) (position : Nat) : Reading ρ Outcome := do
  let next ← source.afterTexts (source.tokens.size + 1 - position) position
  if next = position then return .absent
  else
    match source.callTexts (source.tokens.extract position next).toList (← source.reached) with
    | .ok called => return .found next [.mk (.value called) (source.line position) []]
    | .error halt => throw halt

/-- What is said of a complaint that matches. -/
def complain (source : Source ρ) (next : Nat) (parts : List Part)
    (fault? : Findings → Option Fault) : Reading ρ Outcome := do
  match source.tokens[next - 1]? with
  | some last =>
    match fault? ⟨parts, last, ← source.reached⟩ with
    | some fault => throw (.fault fault)
    | none => return .never
  | none => return .never

/-- Reads a rule, unless it is known what comes of it. -/
def readRule (source : Source ρ) (read : Pattern ρ → Nat → Reading ρ Outcome) (name : ρ)
    (position : Nat) : Reading ρ Outcome := do
  match (← get).known[(name, position)]? with
  | some (some (next, parts)) => return .found next parts
  | some none => return .absent
  | none =>
    let found ← match ← read (source.grammar name) position with
      | .found next parts => pure (some (next, parts))
      | _ => pure none
    if source.keeps name then
      modify fun progress =>
        { progress with known := progress.known.insert (name, position) found }
    match found with
    | some (next, parts) => return .found next parts
    | none => return .absent

/-- The parts of an outcome, changed. -/
def onParts (f : List Part → List Part) : Outcome → Outcome
  | .found next parts => .found next (f parts)
  | outcome => outcome

/-- Reads a pattern at a position, with complaints or without. The fuel bounds how deep patterns lie
within each other. -/
def read (source : Source ρ) : Nat → Bool → Pattern ρ → Nat → Reading ρ Outcome
  | 0, _, _, _ => return .absent
  | fuel + 1, complaining, pattern, position =>
    match pattern with
    -- Words and signs are compared by their text, whether they are keywords or not.
    | .literal text =>
      source.satisfying position fun token =>
        (token.kind = .word || token.kind = .sign) && token.text = text
    | .kind kind => source.satisfying position (·.kind = kind)
    | .name => do
      let token ← source.token position
      if token.kind = .word && !Keyword.python.contains token.text then
        return .found (position + 1) [.mk (.name token.text) token.line []]
      else return .absent
    | .texts => source.readTexts position
    | .rule name => source.readRule (source.read fuel complaining) name position
    | .seq patterns => inSequence (source.read fuel complaining) patterns false position []
    | .either patterns => firstOf (source.read fuel complaining) patterns position
    | .many pattern =>
      repeatedly (source.read fuel complaining pattern) (source.tokens.size + 1 - position) position
        []
    -- Looking ahead takes nothing and gives no parts.
    | .ahead pattern => do
      match ← source.read fuel complaining pattern position with
      | .found _ _ => return .found position []
      | _ => return .absent
    | .notAhead pattern => do
      match ← source.read fuel complaining pattern position with
      | .found _ _ => return .absent
      | _ => return .found position []
    | .commit => return .found position []
    | .forced text => do
      let token ← source.token position
      if token.kind = .sign && token.text = text then return .found (position + 1) []
      else throw (.fault ⟨"expected '" ++ text ++ "'", token.line⟩)
    | .part what pattern =>
      onParts (fun parts => [.mk what (source.line position) parts]) <$>
        source.read fuel complaining pattern position
    | .joined what pattern =>
      onParts (fun parts =>
          if parts.length ≤ 1 then parts else [.mk what (source.line position) parts]) <$>
        source.read fuel complaining pattern position
    | .last pattern =>
      onParts (fun parts =>
          match parts with
          | [part] => [part]
          | parts =>
            (parts.getLast?.map fun part => .mk part.what (source.line position) part.parts).toList)
        <$> source.read fuel complaining pattern position
    | .plain pattern => onParts (fun _ => []) <$> source.read fuel complaining pattern position
    -- Inside, complaints are neither made nor looked for.
    | .calm pattern => source.read fuel false pattern position
    | .complaint hasty pattern fault? => do
      -- Complaints are looked for only after the source was refused, unless they are hasty.
      if hasty || complaining then
        match ← source.read fuel complaining pattern position with
        | .found next parts => source.complain next parts fault?
        | outcome => return outcome
      else return .absent

end Source

end SchemaPress.SourceCheck
