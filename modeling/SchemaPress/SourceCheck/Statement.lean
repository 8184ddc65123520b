import SchemaPress.SourceCheck.Expression

/-!
# The grammar of statements

The patterns of statements and of the cases of a match, and the pattern of each rule.
-/

namespace SchemaPress.SourceCheck

open Pattern

/-! ### Saying what is wrong -/

/-- A statement lacks its colon. -/
def wrongColon (head : Form) : Form :=
  wrongThere "expected ':'" (.seq [.plain head, .kind .newline])

/-- A statement lacks its block: its first part is the word it starts with. -/
def wrongBlock (statement : String) (head : Form) : Form :=
  .complaint false (.seq [head, ":", .kind .newline, .notAhead (.kind .indent)]) fun findings =>
    findings.parts.head?.map fun part =>
      ⟨"expected an indented block after " ++ statement ++ " on line " ++ toString part.line,
        findings.reached⟩

/-! ### Simple statements -/

/-- The right side of an assignment. -/
def assigned : Form :=
  .either [yieldForm, .rule .starExpressions]

/-- The signs that change a place by a value. -/
def changeSigns : Form :=
  .either ["+=", "-=", "*=", "@=", "/=", "%=", "&=", "|=", "^=", "<<=", ">>=", "**=", "//="]

/-- Wrong assignments. -/
def wrongAssignment : Form :=
  let targets : Form := .plain (.many (.seq [starTargets, "="]))
  .either
    [misplaced "only single target (not " ") can be annotated"
      (.seq
        [.either [listForm, tupleForm,
          .seq ["(", .either [listForm, tupleForm, .seq ["(", .either [listForm, tupleForm], ")"]],
            ")"]],
        ":", .rule .expression]),
    wrong "only single target (not tuple) can be annotated"
      (.seq [starNamed, ",", .plain (.many starNameds), ":", .rule .expression]),
    wrong "illegal target for annotation" (.seq [.rule .expression, ":", .rule .expression]),
    refused .assign "assign to" (.seq [targets, .rule .starExpressions, "="]),
    wrong "assignment to yield expression not possible" (.seq [targets, yieldForm, "="]),
    misplaced "'" "' is an illegal expression for augmented assignment"
      (.seq [.rule .starExpressions, changeSigns, .plain assigned])]

/-- An assignment. -/
def assignmentForm : Form :=
  let value : Form := maybe (.seq ["=", assigned])
  .either
    [.seq [.name, ":", .rule .expression, value],
    .seq
      [.either [.seq ["(", .rule .singleTarget, ")"], ownedPlace], ":", .rule .expression, value],
    .seq [some1 (.seq [starTargets, "="]), assigned, .notAhead "="],
    .seq [.rule .singleTarget, changeSigns, .commit, assigned],
    wrongAssignment]

/-- A name with dots. -/
def dottedName : Form :=
  separated "." .name

/-- A new name for what is imported. -/
def renamed : Form :=
  maybe (.seq ["as", .name])

/-- What is imported from a module. -/
def importTargets : Form :=
  let names := commaList (.seq [.name, renamed])
  .either
    [.seq ["(", names, maybe ",", ")"], .seq [names, .notAhead ","], "*",
    .either
      [wrongThere "trailing comma not allowed without surrounding parentheses"
        (.seq [names, ",", .kind .newline])]]

/-- An import. -/
def importForm : Form :=
  let dots : Form := .either [".", "..."]
  .either
    [.seq ["import", commaList (.seq [dottedName, renamed])],
    .seq ["from", .many dots, dottedName, "import", importTargets],
    .seq ["from", some1 dots, "import", importTargets]]

/-- A deletion. -/
def deleteForm : Form :=
  .either
    [.seq ["del", deleteTargets, .ahead (.either [";", .kind .newline])],
    .either [refused .delete "delete" (.seq ["del", .rule .starExpressions])]]

/-- A statement on a line. -/
def simpleStatementForm : Form :=
  .either
    [assignmentForm, .rule .starExpressions, .seq ["return", maybe (.rule .starExpressions)],
    .seq [.ahead (.either ["import", "from"]), importForm],
    .seq
      ["raise", maybe (.seq [.rule .expression, maybe (.seq ["from", .rule .expression])])],
    "pass", .seq [.ahead "del", deleteForm], yieldForm,
    .seq ["assert", .rule .expression, maybe (.seq [",", .rule .expression])],
    "break", "continue", .seq ["global", commaList .name], .seq ["nonlocal", commaList .name]]

/-- The statements on a line. -/
def simpleStatementsForm : Form :=
  .either
    [.seq [.rule .simpleStatement, .notAhead ";", .kind .newline],
    .seq [separated ";" (.rule .simpleStatement), maybe ";", .kind .newline]]

/-! ### Blocks -/

/-- The statements of a block. -/
def blockForm : Form :=
  .either
    [.seq [.kind .newline, .kind .indent, .rule .statements, .kind .dedent],
    .rule .simpleStatements,
    .either
      [wrongThere "expected an indented block"
        (.seq [.kind .newline, .notAhead (.kind .indent)])]]

/-- The last branch of a statement. -/
def elseForm : Form :=
  .either
    [.either [wrongBlock "'else' statement" (marked "else")],
    .seq ["else", .forced ":", .rule .block]]

/-- A branch with a condition, and those that follow it. -/
def branchForm (word : String) : Form :=
  let head : Form := .seq [marked word, .rule .namedExpression]
  .either
    [.either [wrongColon head, wrongBlock ("'" ++ word ++ "' statement") head],
    .seq [head, ":", .rule .block, .rule .elseIf],
    .seq [head, ":", .rule .block, maybe elseForm]]

/-- A loop with a condition. -/
def whileForm : Form :=
  let head : Form := .seq [marked "while", .rule .namedExpression]
  .either
    [.either [wrongColon head, wrongBlock "'while' statement" head],
    .seq [head, ":", .rule .block, maybe elseForm]]

/-- A loop over values. -/
def forForm : Form :=
  let head : Form :=
    .seq [maybe "async", marked "for", starTargets, "in", .rule .starExpressions]
  let rest : List Form :=
    [starTargets, "in", .commit, .rule .starExpressions, ":", .rule .block, maybe elseForm]
  .either
    [.either [wrongColon head, wrongBlock "'for' statement" head],
    .seq ("for" :: rest), .seq ("async" :: "for" :: rest), wrongLoopTarget]

/-- A context with a name for it, or without. -/
def withItem : Form :=
  let ends : Form := .ahead (.either [",", ")", ":"])
  .either
    [.seq [.rule .expression, "as", .rule .starTarget, ends],
    .either
      [refused .assign "assign to"
        (.seq [.plain (.rule .expression), "as", .rule .expression, ends])],
    .rule .expression]

/-- A statement with contexts. -/
def withForm : Form :=
  let named (form : Form) : Form := .seq [form, maybe (.seq ["as", .rule .starTarget])]
  let bare : Form := .seq [maybe "async", marked "with", commaList (named (.rule .expression))]
  let grouped : Form :=
    .seq
      [maybe "async", marked "with", "(", commaList (named expressionsForm), maybe ",", ")"]
  let items : Form := .seq ["(", commaList withItem, maybe ",", ")", ":", .rule .block]
  let bareItems : Form := .seq [commaList withItem, ":", .rule .block]
  .either
    [.either [wrongBlock "'with' statement" bare, wrongBlock "'with' statement" grouped],
    .seq ["with", items], .seq ["with", bareItems],
    .seq ["async", "with", items], .seq ["async", "with", bareItems],
    .either [wrongColon bare, wrongColon grouped]]

/-! ### Failures -/

/-- Wrong heads of handlers. -/
def wrongHandler : Form :=
  let star : Form := maybe "*"
  .either
    [wrong "multiple exception types must be parenthesized"
      (.seq ["except", star, .rule .expression, ",", expressionsForm, renamed, ":"]),
    wrongColon (.seq ["except", star, .rule .expression, renamed]),
    wrongColon "except",
    wrongThere "expected one or more exception types"
      (.seq ["except", "*", .either [.kind .newline, ":"]])]

/-- A handler of failures. -/
def handlerForm : Form :=
  let statement := "'except' statement"
  .either
    [.either
      [wrongBlock statement (.seq [marked "except", .rule .expression, renamed]),
      wrongBlock statement (marked "except")],
    .seq ["except", .rule .expression, renamed, ":", .rule .block],
    .seq ["except", ":", .rule .block], wrongHandler]

/-- A handler of groups of failures. -/
def groupHandlerForm : Form :=
  .either
    [.either
      [wrongBlock "'except*' statement"
        (.seq [marked "except", "*", .rule .expression, renamed])],
    .seq ["except", "*", .rule .expression, renamed, ":", .rule .block], wrongHandler]

/-- What is done in the end. -/
def finallyForm : Form :=
  .either
    [.either [wrongBlock "'finally' statement" (marked "finally")],
    .seq ["finally", .forced ":", .rule .block]]

/-- A statement with handlers of failures. -/
def tryForm : Form :=
  let mixed := "cannot have both 'except' and 'except*' on the same 'try'"
  let start : Form := .plain (.seq ["try", ":", .many (.rule .block)])
  let handlers (form : Form) : Form :=
    .seq ["try", .forced ":", .rule .block, some1 form, maybe elseForm, maybe finallyForm]
  .either
    [.either
      [wrongBlock "'try' statement" (marked "try"),
      wrongThere "expected 'except' or 'finally' block"
        (.seq ["try", ":", .rule .block, .notAhead (.either ["except", "finally"])]),
      wrong mixed
        (.seq
          [start, .plain (some1 handlerForm), marked "except", "*", .rule .expression, renamed, ":"]),
      wrong mixed
        (.seq
          [start, .plain (some1 groupHandlerForm), marked "except",
          maybe (.seq [.rule .expression, renamed]), ":"])],
    .seq ["try", .forced ":", .rule .block, finallyForm], handlers handlerForm,
    handlers groupHandlerForm]

/-! ### Cases -/

/-- A value that a case compares with. A number may be the sum of a real and an imaginary one. -/
def caseLiteral : Form :=
  let sign : Form := .either ["+", "-"]
  let real : Form := .seq [maybe "-", .kind .number, sign]
  .either
    [.seq [maybe "-", .either [.kind .number, .kind .imaginary], .notAhead sign],
    .seq [real, .kind .imaginary],
    .either
      [wrongAtOnce "imaginary number required in complex literal"
        (.seq [real, valueOf "literal" (.kind .number)]),
      wrongAtOnce "real number required in complex literal"
        (.seq [maybe "-", valueOf "literal" (.kind .imaginary), sign])],
    .texts, "None", "True", "False"]

/-- A name that a case binds. -/
def caseName : Form :=
  .seq [.notAhead "_", .name, .notAhead (.either [".", "(", "="])]

/-- A name with a dot or more. -/
def qualified : Form :=
  .seq [.name, some1 (.seq [".", .name])]

/-- The rest of a sequence. -/
def starCaseForm : Form :=
  .either [.seq ["*", caseName], .seq ["*", "_"]]

/-- An item of a sequence. -/
def caseItem : Form :=
  .either [.rule .starCase, .rule .casePattern]

/-- The items of a sequence, any number of them. -/
def caseItems : Form :=
  .seq [commaList caseItem, maybe ","]

/-- The items of a sequence without brackets. -/
def openItems : Form :=
  .seq [caseItem, ",", maybe caseItems]

/-- A pattern for a mapping. -/
def mappingCase : Form :=
  let pair : Form := .seq [.either [caseLiteral, qualified], ":", .rule .casePattern]
  let rest : Form := .seq ["**", caseName]
  .either
    [.seq ["\x7b", "\x7d"], .seq ["\x7b", rest, maybe ",", "\x7d"],
    .seq ["\x7b", commaList pair, ",", rest, maybe ",", "\x7d"],
    .seq ["\x7b", commaList pair, maybe ",", "\x7d"]]

/-- A pattern for the fields of a value. -/
def classCase : Form :=
  let fields := commaList (.rule .casePattern)
  let named := commaList (.seq [.name, "=", .rule .casePattern])
  .either
    [.seq [dottedName, "(", ")"], .seq [dottedName, "(", fields, maybe ",", ")"],
    .seq [dottedName, "(", named, maybe ",", ")"],
    .seq [dottedName, "(", fields, ",", named, maybe ",", ")"],
    .either
      [wrong "positional patterns follow keyword patterns"
        (.seq
          [.plain dottedName, "(", .plain (maybe (.seq [fields, ","])), .plain named, ",",
          valueOf "patterns" fields])]]

/-- A pattern without alternatives. -/
def closedCaseForm : Form :=
  .either
    [caseLiteral, caseName, "_", .seq [qualified, .notAhead (.either [".", "(", "="])],
    .seq ["(", .rule .casePattern, ")"], .seq ["[", maybe caseItems, "]"],
    .seq ["(", maybe openItems, ")"], mappingCase, classCase]

/-- A pattern with alternatives and a name for what it matches. -/
def casePatternForm : Form :=
  let alternatives : Form := .plain (separated "|" (.rule .closedCase))
  .either
    [.seq [alternatives, "as", caseName],
    .either
      [wrong "cannot use '_' as a target" (.seq [alternatives, "as", marked "_"]),
      wrong "invalid pattern target"
        (.seq [alternatives, "as", .notAhead .name, .rule .expression])],
    alternatives]

/-- A case of a match. -/
def caseForm : Form :=
  let head : Form :=
    .seq
      [marked "case", .either [openItems, .rule .casePattern],
      maybe (.seq ["if", .rule .namedExpression])]
  .either
    [.either [wrongColon head, wrongBlock "'case' statement" head],
    .seq [head, ":", .rule .block]]

/-- A choice between cases. -/
def matchForm : Form :=
  let head : Form :=
    .seq
      [marked "match",
      .either [.seq [starNamed, ",", maybe starNameds], .rule .namedExpression]]
  .either
    [.seq [head, ":", .kind .newline, .kind .indent, some1 caseForm, .kind .dedent],
    .either [wrongColon head, wrongBlock "'match' statement" head]]

/-! ### Definitions -/

/-- A function. -/
def functionForm : Form :=
  let annotation : Form := maybe (.seq [":", .rule .expression])
  let parameters :=
    parametersForm (.seq [.name, annotation])
      (some (.seq [.name, ":", .either [.part .starred (.seq ["*", .rule .bitwiseOr]),
        .rule .expression]]))
      ")" "Function"
      (some1 (.seq [.name, annotation, .either [",", .ahead ")"]]))
  let result : Form := maybe (.seq ["->", .rule .expression])
  let rest : List Form :=
    [.name, .forced "(", maybe parameters, ")", result, .forced ":", .rule .block]
  .either
    [.either
      [wrongBlock "function definition"
        (.seq [maybe "async", marked "def", .name, "(", maybe parameters, ")", result])],
    .seq ("def" :: rest), .seq ("async" :: "def" :: rest)]

/-- A class. -/
def classForm : Form :=
  let head : Form :=
    .seq [marked "class", .name, maybe (.seq ["(", maybe (.rule .arguments), ")"])]
  .either
    [.either [wrongColon head, wrongBlock "class definition" head],
    .seq [head, ":", .rule .block]]

/-- Decorators in front of a definition. -/
def decorated (form : Form) : Form :=
  .either [.seq [some1 (.seq ["@", .rule .namedExpression, .kind .newline]), form], form]

/-- A statement. -/
def statementForm : Form :=
  .either
    [.seq [.ahead (.either ["def", "@", "async"]), decorated functionForm],
    .seq [.ahead "if", branchForm "if"],
    .seq [.ahead (.either ["class", "@"]), decorated classForm],
    .seq [.ahead (.either ["with", "async"]), withForm],
    .seq [.ahead (.either ["for", "async"]), forForm], .seq [.ahead "try", tryForm],
    .seq [.ahead "while", whileForm], matchForm, .rule .simpleStatements]

/-! ### The grammar -/

/-- The pattern of a rule. -/
def Rule.form : Rule → Form
  | .file => .seq [maybe (.rule .statements), .kind .ending]
  | .embedded => .rule .starExpressions
  | .statements => some1 (.plain (.rule .statement))
  | .statement => statementForm
  | .simpleStatement => simpleStatementForm
  | .simpleStatements => simpleStatementsForm
  | .block => .plain blockForm
  | .elseIf => branchForm "elif"
  | .expression => expressionForm
  | .disjunction => logical "or" (.rule .conjunction)
  | .conjunction => logical "and" (.rule .inversion)
  | .inversion => inversionForm
  | .comparison => comparisonForm
  | .bitwiseOr => bitwiseOrForm
  | .factor => factorForm
  | .awaited => awaitedForm
  | .primary => primaryForm
  | .atom => atomForm
  | .starExpression => starExpressionForm
  | .starExpressions => starExpressionsForm
  | .namedExpression => namedExpressionForm
  | .misnamed => misnamedForm
  | .loops => .plain loopsForm
  | .arguments => argumentsForm
  | .owner => .plain ownerForm
  | .singleTarget => singleTargetForm
  | .starTarget => starTargetForm
  | .ownedTarget => ownedTargetForm
  | .deleteTarget => deleteTargetForm
  | .casePattern => casePatternForm
  | .closedCase => closedCaseForm
  | .starCase => starCaseForm

end SchemaPress.SourceCheck
