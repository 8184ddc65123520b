import SchemaPress.SourceCheck.Pattern

/-!
# The rules of the grammar

The rules that patterns refer to. A pattern that nothing in it leads back to has no rule of its own.
-/

namespace SchemaPress.SourceCheck

/-- A rule of the grammar. -/
inductive Rule where
  /-- A whole source. -/
  | file
  /-- The inside of a pair of braces in a text. -/
  | embedded
  | statements
  | statement
  | simpleStatement
  | simpleStatements
  | block
  | elseIf
  | expression
  | disjunction
  | conjunction
  | inversion
  | comparison
  | bitwiseOr
  | factor
  | awaited
  | primary
  | atom
  | starExpression
  | starExpressions
  | namedExpression
  | misnamed
  | loops
  | arguments
  /-- What stands in front of the last step to a place for a value. -/
  | owner
  | singleTarget
  | starTarget
  | ownedTarget
  | deleteTarget
  /-- A pattern of a case. -/
  | casePattern
  | closedCase
  | starCase
deriving DecidableEq, Hashable, Repr

/-- Whether what is known of a rule at a position is kept. Rules that lead to complaints are read again,
where the reading without complaints went before. -/
def Rule.keeps : Rule → Bool
  | .file | .embedded | .statements | .statement | .simpleStatements | .elseIf | .comparison
  | .atom | .starExpressions | .namedExpression | .loops | .singleTarget | .casePattern => false
  | _ => true

/-- A pattern of tokens in this grammar. -/
abbrev Form : Type := Pattern Rule

end SchemaPress.SourceCheck
