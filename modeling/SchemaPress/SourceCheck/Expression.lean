import SchemaPress.SourceCheck.Rule

/-!
# The grammar of expressions

Each pattern of complaints stands with the pattern whose failure it explains.
-/

namespace SchemaPress.SourceCheck

open Pattern

/-! ### Saying what is wrong -/

/-- A part that can only be read. -/
def valueOf (called : String) (form : Form) : Form :=
  .part (.value called) form

/-- The first part stands where it should not, which is said with what it is called. -/
def misplaced (before : String) (after : String) (form : Form) : Form :=
  .complaint false form fun findings =>
    findings.parts.head?.map fun part => ⟨before ++ part.what.called ++ after, part.line⟩

/-- The first part is used in a way that it does not bear, or some part of it. -/
def refused (use : Use) (verb : String) (form : Form) : Form :=
  .complaint false form fun findings =>
    (findings.parts.head?.bind fun part => part.refused? use).map fun part =>
      ⟨"cannot " ++ verb ++ " " ++ part.what.called, part.line⟩

/-- One or more with commas between them. -/
def commaList (form : Form) : Form :=
  separated "," form

/-! ### Operators -/

/-- Operands with signs between them, which bind to the left. -/
def operators (signs : List String) (operand : Form) : Form :=
  .joined (.value "expression")
    (.seq [operand, .many (.seq [.either (signs.map .literal), operand])])

/-- Expressions with `and` or `or` between them. -/
def logical (word : String) (operand : Form) : Form :=
  .joined (.value "expression") (separated word operand)

/-- A comparison with an operand. -/
def comparedTo : Form :=
  .seq
    [.either
      (["==", "!=", "<=", "<", ">=", ">"].map marked ++
        [valueOf "not in" (.seq ["not", "in"]), marked "in",
          valueOf "is not" (.seq ["is", "not"]), marked "is"]),
    .rule .bitwiseOr]

/-- A comparison. -/
def comparisonForm : Form :=
  .joined .comparison (.seq [.rule .bitwiseOr, .many comparedTo])

/-- A negation or a comparison. -/
def inversionForm : Form :=
  .either [valueOf "expression" (.seq ["not", .rule .inversion]), .rule .comparison]

/-- Sums, shifts and operators on bits. -/
def bitwiseOrForm : Form :=
  let term := operators ["*", "/", "//", "%", "@"] (.rule .factor)
  let shift := operators ["<<", ">>"] (operators ["+", "-"] term)
  operators ["|"] (operators ["^"] (operators ["&"] shift))

/-- A signed value or a power. -/
def factorForm : Form :=
  .either
    [valueOf "expression" (.seq [.either ["+", "-", "~"], .rule .factor]),
    .joined (.value "expression") (.seq [.rule .awaited, maybe (.seq ["**", .rule .factor])])]

/-- A primary, waited for or not. -/
def awaitedForm : Form :=
  .either [valueOf "await expression" (.seq ["await", .rule .primary]), .rule .primary]

/-! ### Loops within expressions -/

/-- A wrong target of a loop. -/
def wrongLoopTarget : Form :=
  .either
    [refused .loop "assign to" (.seq [maybe "async", "for", .rule .starExpressions])]

/-- Targets of assignments, one or more. -/
def starTargets : Form :=
  .either
    [.seq [.rule .starTarget, .notAhead ","],
    .part .tuple (.seq [commaList (.rule .starTarget), maybe ","])]

/-- A loop with its conditions. -/
def loopForm : Form :=
  let head : Form :=
    .seq ["for", starTargets, "in", .commit, .rule .disjunction,
      .many (.seq ["if", .rule .disjunction])]
  let asyncHead : Form :=
    .seq ["async", "for", starTargets, "in", .commit, .rule .disjunction,
      .many (.seq ["if", .rule .disjunction])]
  .either [asyncHead, head, wrongLoopTarget]

/-- The loops of a comprehension. -/
def loopsForm : Form :=
  some1 loopForm

/-! ### Expressions in brackets -/

/-- An expression to be unpacked. -/
def starredForm : Form :=
  .part .starred (.seq ["*", .rule .expression])

/-- An item of a display: it may be unpacked or bind a name. -/
def starNamed : Form :=
  .either [.part .starred (.seq ["*", .rule .bitwiseOr]), .rule .namedExpression]

/-- The items of a display. -/
def starNameds : Form :=
  .seq [commaList starNamed, maybe ","]

/-- An expression that may bind a name with `:=`, or an expression that no `:=` follows. -/
def bindingOrExpression : Form :=
  .either
    [valueOf "named expression" (.seq [.name, ":=", .commit, .rule .expression]),
    .seq [.rule .expression, .notAhead ":="]]

/-- A list. -/
def listForm : Form :=
  .part .list (.seq ["[", maybe starNameds, "]"])

/-- A tuple in brackets. -/
def tupleForm : Form :=
  .part .tuple (.seq ["(", maybe (.seq [starNamed, ",", maybe starNameds]), ")"])

/-- Values to be yielded, or the values of another generator. -/
def yieldForm : Form :=
  .either
    [valueOf "yield expression" (.seq ["yield", "from", .rule .expression]),
    valueOf "yield expression" (.seq ["yield", maybe (.rule .starExpressions)])]

/-- An expression in round brackets. -/
def groupForm : Form :=
  .either
    [.seq ["(", .either [yieldForm, .rule .namedExpression], ")"],
    .either
      [wrong "cannot use starred expression here" (.seq ["(", starredForm, ")"]),
      wrong "cannot use double starred expression here"
        (.seq ["(", marked "**", .plain (.rule .expression), ")"])]]

/-- Comprehensions that unpack their items, or lack brackets around them. -/
def wrongComprehension : Form :=
  let bare := "did you forget parentheses around the comprehension target?"
  .either
    [wrong "iterable unpacking cannot be used in comprehension"
      (.seq [.either ["[", "(", "\x7b"], starredForm, .rule .loops]),
    wrong bare (.seq [.either ["[", "\x7b"], starNamed, ",", starNameds, .rule .loops]),
    wrong bare (.seq [.either ["[", "\x7b"], starNamed, ",", .rule .loops])]

/-- A generator. -/
def generatorForm : Form :=
  .either
    [valueOf "generator expression" (.seq ["(", bindingOrExpression, .rule .loops, ")"]),
    wrongComprehension]

/-- A comprehension of a list or a set. -/
def comprehensionForm (called opening closing : String) : Form :=
  .either
    [valueOf called (.seq [.literal opening, .rule .namedExpression, .rule .loops, .literal closing]),
    wrongComprehension]

/-- A set. -/
def setForm : Form :=
  valueOf "set display" (.seq ["\x7b", starNameds, "\x7d"])

/-- A key with its value. -/
def pairForm : Form :=
  .seq [.rule .expression, ":", .rule .expression]

/-- A key with its value, or pairs to be unpacked. -/
def anyPair : Form :=
  .either [.seq ["**", .rule .bitwiseOr], pairForm]

/-- What is wrong with pairs. -/
def wrongPairs : Form :=
  let starredValue := wrongAtOnce "cannot use a starred expression in a dictionary value"
    (.seq [.plain (.rule .expression), ":", marked "*", .plain (.rule .bitwiseOr)])
  let noValue := wrongAtOnce "expression expected after dictionary key and ':'"
    (.seq [.plain (.rule .expression), marked ":", .ahead (.either ["\x7d", ","])])
  .either
    [.seq
      [commaList anyPair, ",",
      .either
        [wrongAtOnce "':' expected after dictionary key" (.seq [.rule .expression, .notAhead ":"]),
        starredValue, noValue]],
    starredValue, noValue]

/-- A dictionary. -/
def dictionaryForm : Form :=
  .either
    [valueOf "dict literal" (.seq ["\x7b", maybe (.seq [commaList anyPair, maybe ","]), "\x7d"]),
    .seq ["\x7b", wrongPairs, "\x7d"]]

/-- A comprehension of a dictionary. -/
def dictionaryComprehension : Form :=
  .either
    [valueOf "dict comprehension" (.seq ["\x7b", pairForm, .rule .loops, "\x7d"]),
    .either
      [wrong "dict unpacking cannot be used in dict comprehension"
        (.seq ["\x7b", marked "**", .plain (.rule .bitwiseOr), .rule .loops, "\x7d"])]]

/-- The smallest expressions. -/
def atomForm : Form :=
  .either
    [.name, marked "True", marked "False", marked "None", .texts,
    valueOf "literal" (.either [.kind .number, .kind .imaginary]),
    .seq [.ahead "(", .either [tupleForm, groupForm, generatorForm]],
    .seq [.ahead "[", .either [listForm, comprehensionForm "list comprehension" "[" "]"]],
    .seq
      [.ahead "\x7b",
      .either
        [dictionaryForm, setForm, dictionaryComprehension,
          comprehensionForm "set comprehension" "\x7b" "\x7d"]],
    valueOf "ellipsis" "..."]

/-! ### Arguments -/

/-- A keyword argument whose name cannot be one. -/
def wrongKeyword : Form :=
  .either
    [misplaced "cannot assign to " ""
      (.seq [.either [marked "True", marked "False", marked "None"], "="]),
    wrong "invalid syntax. Maybe you meant '==' or ':=' instead of '='?"
      (.seq [.name, "=", .plain (.rule .expression), .rule .loops]),
    wrong "expression cannot contain assignment, perhaps you meant \"==\"?"
      (.seq [.notAhead (.seq [.name, "="]), .rule .expression, "="])]

/-- A keyword argument, or one to be unpacked that counts as positional. -/
def keywordOrStarred : Form :=
  .either
    [wrongKeyword, valueOf "keyword" (.seq [.name, "=", .rule .expression]), starredForm]

/-- A keyword argument, or several of them to be unpacked. -/
def keywordOrDouble : Form :=
  .either
    [wrongKeyword, valueOf "keyword" (.seq [.name, "=", .rule .expression]),
    valueOf "keywords" (.seq ["**", .rule .expression])]

/-- The arguments from the first keyword on. -/
def keywordArguments : Form :=
  .either
    [.seq [commaList keywordOrStarred, ",", commaList keywordOrDouble],
    commaList keywordOrStarred, commaList keywordOrDouble]

/-- All arguments. -/
def someArguments : Form :=
  let positional : Form :=
    .either [starredForm, .seq [bindingOrExpression, .notAhead "="]]
  .either
    [.seq [commaList positional, maybe (.seq [",", keywordArguments])], keywordArguments]

/-- Whether the part is a keyword argument or several of them. -/
def isKeyword (part : Part) : Bool :=
  part.what = .value "keyword" || part.what = .value "keywords"

/-- Wrong arguments. -/
def wrongArguments : Form :=
  let generator := "Generator expression must be parenthesized"
  let together := valueOf "arguments" someArguments
  .either
    [wrong "iterable argument unpacking follows keyword argument unpacking"
      (.seq [together, ",", "*"]),
    wrong generator
      (.seq
        [.rule .expression, .rule .loops, ",",
        maybe (.either [someArguments, .seq [.rule .expression, .rule .loops]])]),
    wrong "invalid syntax. Maybe you meant '==' or ':=' instead of '='?"
      (.seq [.name, "=", .plain (.rule .expression), .rule .loops]),
    .complaint false (.seq [together, .rule .loops]) fun findings =>
      let positional := ((findings.parts.head?.map Part.parts).getD []).filter (!isKeyword ·)
      if positional.length ≤ 1 then none
      else positional.getLast?.map fun part => ⟨generator, part.line⟩,
    wrong generator (.seq [.plain someArguments, ",", .rule .expression, .rule .loops]),
    .complaint false (.seq [together, ",", .plain someArguments]) fun findings =>
      let arguments := (findings.parts.head?.map Part.parts).getD []
      let unpacking := arguments.any (·.what = .value "keywords")
      some ⟨"positional argument follows keyword argument" ++ if unpacking then " unpacking" else "",
        findings.reached⟩]

/-- Arguments up to the bracket that closes them. -/
def argumentsForm : Form :=
  .either [.seq [someArguments, maybe ",", .ahead ")"], wrongArguments]

/-! ### Steps from a value -/

/-- A part of a subscript. -/
def sliceForm : Form :=
  let bound : Form := maybe (.rule .expression)
  .either [.seq [bound, ":", bound, maybe (.seq [":", bound])], .rule .namedExpression]

/-- A subscript. -/
def slicesForm : Form :=
  .either
    [.seq [sliceForm, .notAhead ","],
    .seq [commaList (.either [sliceForm, starredForm]), maybe ","]]

/-- An attribute of what stands in front. -/
def attributeStep : Form :=
  .part .attribute (.seq [".", .name])

/-- An item of what stands in front. -/
def subscriptStep : Form :=
  .part .subscript (.seq ["[", slicesForm, "]"])

/-- A call of what stands in front. -/
def callStep : Form :=
  .either
    [valueOf "function call" generatorForm,
    valueOf "function call" (.seq ["(", maybe (.rule .arguments), ")"])]

/-- A value with the steps from it. -/
def primaryForm : Form :=
  .last (.seq [.rule .atom, .many (.either [attributeStep, callStep, subscriptStep])])

/-- A value with steps from it, of which one more follows. -/
def ownerForm : Form :=
  let more : Form := .ahead (.either ["(", "[", "."])
  .seq
    [.rule .atom, more,
    .many (.seq [.either [attributeStep, subscriptStep, callStep], more])]

/-! ### Places for values -/

/-- An attribute or an item, as a place for a value. -/
def ownedPlace : Form :=
  let last : Form := .notAhead (.either ["(", "[", "."])
  .either
    [.seq [.rule .owner, attributeStep, last], .seq [.rule .owner, subscriptStep, last]]

/-- A single place for a value. -/
def singleTargetForm : Form :=
  .either [ownedPlace, .name, .seq ["(", .rule .singleTarget, ")"]]

/-- Several places for values, in brackets or not. -/
def starTargetTuple : Form :=
  .either
    [.seq [.rule .starTarget, some1 (.seq [",", .rule .starTarget]), maybe ","],
    .seq [.rule .starTarget, ","]]

/-- Names, and places for values in brackets. -/
def starAtom : Form :=
  .either
    [.name, .seq ["(", .rule .ownedTarget, ")"],
    .part .tuple (.seq ["(", maybe starTargetTuple, ")"]),
    .part .list (.seq ["[", maybe (.seq [commaList (.rule .starTarget), maybe ","]), "]"])]

/-- A place for a value. -/
def ownedTargetForm : Form :=
  .either [ownedPlace, starAtom]

/-- A place for a value or for those that are left. -/
def starTargetForm : Form :=
  .either
    [.part .starred (.seq ["*", .notAhead "*", .rule .starTarget]), .rule .ownedTarget]

/-- What can be deleted, one or more. -/
def deleteTargets : Form :=
  .seq [commaList (.rule .deleteTarget), maybe ","]

/-- What can be deleted. -/
def deleteTargetForm : Form :=
  .either
    [ownedPlace, .name, .seq ["(", .rule .deleteTarget, ")"],
    .seq ["(", maybe deleteTargets, ")"], .seq ["[", maybe deleteTargets, "]"]]

/-! ### Parameters -/

/-- The parameters of a function, with what is wrong with them: `parameter` is one of them,
`starParameter` the one behind a star if it differs, and `closing` the sign that ends them. -/
def parametersForm (parameter : Form) (starParameter : Option Form) (closing grouped : String)
    (inGroup : Form) : Form :=
  let ends : Form := .either [",", .ahead (.literal closing)]
  let default : Form :=
    .either
      [.seq ["=", .rule .expression],
      .either [wrong "expected default value expression"
        (.seq [marked "=", .ahead (.either [")", ","])])]]
  let required : Form := .seq [parameter, ends]
  let optional : Form := .seq [parameter, default, ends]
  let any : Form := .seq [parameter, maybe default, ends]
  let slash : Form := .either [.seq ["/", ","], .seq ["/", .ahead (.literal closing)]]
  let slashRequired : Form := .seq [some1 required, slash]
  let slashOptional : Form := .seq [.many required, some1 optional, slash]
  let behindDouble := "arguments cannot follow var-keyword argument"
  let double : Form :=
    .either
      [.either
        [wrong "var-keyword argument cannot have default value"
          (.seq ["**", .plain parameter, marked "="]),
        wrong behindDouble (.seq ["**", .plain parameter, ",", parameter]),
        wrong behindDouble
          (.seq ["**", .plain parameter, ",", .either [marked "*", marked "**", marked "/"]])],
      .seq ["**", required]]
  let star : Form :=
    .either
      ([.either
        [wrong "named arguments must follow bare *"
          (.seq
            [marked "*",
            .either [.literal closing, .seq [",", .either [.literal closing, "**"]]]]),
        wrong "var-positional argument cannot have default value"
          (.seq ["*", .plain parameter, marked "="]),
        wrong "* argument may appear only once"
          (.seq
            ["*", .plain (.either [required, ","]), .plain (.many any), marked "*",
            .plain (.either [required, ","])])],
      .seq ["*", required, .many any, maybe double]] ++
      (starParameter.map fun form => (.seq ["*", form, ends, .many any, maybe double] : Form)).toList
        ++ [.seq ["*", ",", some1 any, maybe double], double])
  let wrongOnes : Form :=
    .either
      [wrong "non-default argument follows default argument"
        (.seq
          [.plain (.many required), .plain (.either [slashOptional, some1 optional]), required]),
      wrong (grouped ++ " parameters cannot be parenthesized")
        (.seq [.plain (.many required), marked "(", inGroup, maybe ",", ")"]),
      wrong "at least one argument must precede /" (.seq [marked "/", ","]),
      wrong "/ may appear only once"
        (.seq
          [.plain (.either [slashRequired, slashOptional]), .plain (.many any), marked "/"]),
      wrong "/ must be ahead of *"
        (.seq
          [.plain (maybe (.either [slashRequired, slashOptional])), .plain (.many any), "*",
          .plain (.either [",", required]), .plain (.many any), marked "/"]),
      wrong "expected comma between / and *"
        (.seq [.plain (some1 any), "/", marked "*"])]
  .either
    [wrongOnes, .seq [slashRequired, .many required, .many optional, maybe star],
    .seq [slashOptional, .many optional, maybe star],
    .seq [some1 required, .many optional, maybe star], .seq [some1 optional, maybe star], star]

/-- A function without a name. -/
def lambdaForm : Form :=
  valueOf "lambda"
    (.seq
      ["lambda", maybe (parametersForm .name none ":" "Lambda expression" (commaList .name)), ":",
      .rule .expression])

/-! ### Expressions -/

/-- A choice between two expressions. -/
def conditionalForm : Form :=
  valueOf "conditional expression"
    (.seq [.rule .disjunction, "if", .rule .disjunction, "else", .rule .expression])

/-- Words that are keywords in some places only, and all their beginnings: behind one of them a missing
comma is not assumed. -/
def softWords : List String := ["_", "c", "ca", "cas", "case", "m", "ma", "mat", "matc", "match"]

/-- Two expressions without a comma between them within brackets, and a choice without its second
half. -/
def wrongExpression : Form :=
  .either
    [.complaint false
      (.seq
        [.notAhead (.either (.seq [.name, .kind .text] :: softWords.map .literal)),
        .rule .disjunction, .calm (.either [conditionalForm, .rule .disjunction, lambdaForm])])
      fun findings =>
        let isStatement := match findings.parts.head?.map Part.what with
          | some (.name text) => text = "print" || text = "exec"
          | _ => false
        if isStatement || findings.last.depth = 0 then none
        else
          findings.parts.head?.map fun part =>
            ⟨"invalid syntax. Perhaps you forgot a comma?", part.line⟩,
    wrong "expected 'else' after 'if' expression"
      (.seq [.rule .disjunction, "if", .rule .disjunction, .notAhead (.either ["else", ":"])])]

/-- A call without its brackets. -/
def wrongCall : Form :=
  .either
    [.complaint false (.seq [.name, .notAhead "(", .plain (.rule .starExpressions)]) fun findings =>
      match findings.parts with
      | [.mk (.name text) line _] =>
        if text = "print" || text = "exec" then
          some ⟨"Missing parentheses in call to '" ++ text ++ "'. Did you mean " ++ text ++ "(...)?",
            line⟩
        else none
      | _ => none]

/-- An expression. -/
def expressionForm : Form :=
  .either [wrongExpression, wrongCall, conditionalForm, .rule .disjunction, lambdaForm]

/-- An expression, or one to be unpacked. -/
def starExpressionForm : Form :=
  .either [.part .starred (.seq ["*", .rule .bitwiseOr]), .rule .expression]

/-- Expressions of which some may be unpacked. -/
def starExpressionsForm : Form :=
  let item : Form := .rule .starExpression
  .either
    [.part .tuple (.seq [item, some1 (.seq [",", item]), maybe ","]),
    .part .tuple (.seq [item, ","]), item]

/-- Expressions with commas between them. -/
def expressionsForm : Form :=
  .seq [commaList (.rule .expression), maybe ","]

/-- Wrong ways to bind a name. -/
def misnamedForm : Form :=
  let notBound : Form := .notAhead (.either ["=", ":="])
  .either
    [misplaced "cannot use assignment expressions with " ""
      (.seq [.rule .expression, ":=", .rule .expression]),
    wrong "invalid syntax. Maybe you meant '==' or ':=' instead of '='?"
      (.seq [.name, "=", .rule .bitwiseOr, notBound]),
    misplaced "cannot assign to " " here. Maybe you meant '==' instead of '='?"
      (.seq
        [.notAhead (.either [listForm, tupleForm, generatorForm, "True", "None", "False"]),
        .rule .bitwiseOr, "=", .rule .bitwiseOr, notBound])]

/-- An expression that may bind a name. -/
def namedExpressionForm : Form :=
  .either
    [valueOf "named expression" (.seq [.name, ":=", .commit, .rule .expression]), .rule .misnamed,
    .seq [.rule .expression, .notAhead ":="]]

end SchemaPress.SourceCheck
