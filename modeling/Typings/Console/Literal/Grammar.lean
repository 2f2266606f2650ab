import Typings.Console.Literal.Pattern
import Typings.Text.PlainLetters

/-!
# The grammar of literal values

A literal value is written as an expression, so the grammar is one of expressions. Its rules come in
two kinds: those that say how an expression is written, and those that describe mistakes.

* `Rule`: the names of the rules;
* `grammar`: their definitions, given how texts between quotes are read.
-/

namespace Typings
namespace Console
namespace Literal

/-! ## Names -/

inductive Rule where
  -- Whole writings
  | whole
  | embedded
  -- Expressions in rows
  | expressions
  | yielding
  | starredRow
  | starredItem
  | namedItems
  | namedItem
  -- Operators, from the loosest one on
  | expression
  | plainExpression
  | naming
  | named
  | disjunction
  | conjunction
  | inversion
  | comparison
  | compared
  | bitOr
  | bitXor
  | bitAnd
  | shift
  | sum
  | term
  | factor
  | power
  | awaited
  | primary
  -- Operands
  | atom
  | texts
  | group
  | list
  | tuple
  | set
  | dict
  | entries
  | entry
  | pair
  | slices
  | slice
  -- Comprehensions
  | clauses
  | clause
  | listOf
  | setOf
  | generator
  | dictOf
  -- Arguments
  | arguments
  | givenArguments
  | keywordArguments
  | starredArgument
  | keywordOrStarred
  | keywordOrUnpacked
  -- Targets
  | targets
  | listedTargets
  | tupledTargets
  | target
  | plainTarget
  | targetAtom
  | targetPrimary
  | accessAhead
  -- Functions without a name
  | function
  | checkedParameters
  | parameters
  | positionalOnly
  | positionalOnlyDefaulted
  | starParameters
  | keywordParameters
  | bareParameter
  | defaultedParameter
  | anyParameter
  | parameter
  | defaultValue
  -- Mistakes
  | wrongExpression
  | wrongStatement
  | wrongNaming
  | wrongGroup
  | wrongEntries
  | wrongEntry
  | wrongComprehension
  | wrongDictOf
  | wrongTarget
  | wrongArguments
  | wrongKeyword
  | wrongParameters
  | wrongDefaulted
  | wrongStar
  | wrongKeywords
  | wrongDefault
deriving DecidableEq, Repr

/-! ## Patterns -/

/-- A rule stands for what it finds. -/
instance : Coe Rule (Pattern Rule) := ⟨.rule⟩

def signed (signs : String) : Pattern Rule :=
  .token fun kind => kind = .sign signs

def worded (word : String) : Pattern Rule :=
  .token fun kind => kind = .keyword word

def nameToken : Pattern Rule :=
  .token fun
    | .name _ => true
    | _ => false

def numberToken : Pattern Rule :=
  .token fun
    | .number _ => true
    | _ => false

def textToken : Pattern Rule :=
  .token fun
    | .text _ => true
    | _ => false

/-- A name that starts a word which is a keyword in some places only. -/
def softKeyword : Pattern Rule :=
  .token fun
    | .name word => ["_", "case", "match"].any fun keyword => keyword.startsWith word
    | _ => false

/-! ## Alternatives -/

/-- Patterns in a row with what their values give. -/
def row (patterns : List (Pattern Rule)) (action : List Value → Outcome) : Alternative Rule :=
  .mk false patterns action

/-- The value of the place `index` among those of patterns in a row. -/
def rowAt (index : Nat) (patterns : List (Pattern Rule)) : Alternative Rule :=
  row patterns fun values => .value (values.getD index .nothing)

/-- A pattern alone. -/
def only (pattern : Pattern Rule) : Alternative Rule :=
  rowAt 0 [pattern]

/-- Patterns in a row that write an expression of a kind. -/
def rowOf (word : String) (patterns : List (Pattern Rule)) : Alternative Rule :=
  row patterns fun _ => .value (.node (.other word))

/-- Patterns in a row of which only the match counts. -/
def matched (patterns : List (Pattern Rule)) : Alternative Rule :=
  row patterns fun _ => .value .nothing

/-- An alternative that describes mistakes. -/
def diagnosis (patterns : List (Pattern Rule)) : Alternative Rule :=
  .mk true patterns fun values => .value (values.getD 0 .nothing)

/-- Patterns in a row that are a mistake. -/
def mistake (patterns : List (Pattern Rule)) (message : String) : Alternative Rule :=
  row patterns fun _ => .mistake message

/-- Patterns in a row as one pattern, with the value of a place among theirs. -/
def inside (index : Nat) (patterns : List (Pattern Rule)) : Pattern Rule :=
  .choice [rowAt index patterns]

/-- One of some patterns. -/
def oneOf (patterns : List (Pattern Rule)) : Pattern Rule :=
  .choice (patterns.map only)

/-! ## Nodes of values -/

/-- The expressions among values. -/
def nodesOf (values : List Value) : List Node :=
  values.filterMap fun
    | .node node => some node
    | _ => none

/-- The values of a pattern that matches several times. -/
def itemsOf : Value → List Value
  | .many values => values
  | _ => []

/-- The tuple of a first expression and those that follow it. -/
def tupleOf : List Value → Outcome
  | .node first :: following :: _ => .value (.node (.tuple (first :: nodesOf (itemsOf following))))
  | _ => .nothing

/-- Expressions with commas between them and perhaps behind the last one: several as a tuple, one
before a comma as a tuple, or one alone. -/
def commaRow (item : Pattern Rule) : List (Alternative Rule) :=
  [row [item, .several (inside 1 [signed ",", item]), .optional (signed ",")] tupleOf,
   row [item, signed ","] fun values => .value (.node (.tuple (nodesOf values))),
   only item]

/-- Two operands and the signs between them. -/
def binary (signs : String) (left right : Pattern Rule) : Alternative Rule :=
  row [left, signed signs, right] fun
    | [.node left, _, .node right] => .value (.node (.binary signs left right))
    | _ => .nothing

/-- A sign in front of an operand. -/
def prefixed (signs : String) (operand : Pattern Rule) : Alternative Rule :=
  row [signed signs, operand] fun
    | [_, .node operand] => .value (.node (.sign signs operand))
    | _ => .nothing

/-- One or more operands joined by a word. -/
def joinedBy (word : String) (operand : Pattern Rule) : List (Alternative Rule) :=
  [rowOf "expression" [operand, .several (inside 1 [worded word, operand])], only operand]

/-- A comparison operator with the operand behind it. -/
def comparedBy (operators : List (Pattern Rule)) : Alternative Rule :=
  rowAt 0 (operators ++ [.rule .bitOr])

/-- The operator that a comparison starts with. -/
def firstOperator : Value → String
  | .many (.token ⟨.keyword word, _, _, _⟩ :: _) => word
  | _ => ""

/-- A starred expression. -/
def starredOf (patterns : List (Pattern Rule)) : Alternative Rule :=
  row patterns fun
    | [_, .node value] => .value (.node (.starred value))
    | _ => .nothing

/-- A word that is a value. -/
def constantOf (pattern : Pattern Rule) (value : Constant) : Alternative Rule :=
  row [pattern] fun _ => .value (.node (.constant value))

/-- A number, unless it is too long. -/
def numberOf : List Value → Outcome
  | [.token ⟨.number (.tooLong digits), _, _, _⟩] =>
      .mistake ((Json.Excess.digits digits).message ++
        " - Consider hexadecimal for huge integer literals " ++
          "to avoid decimal conversion limits.")
  | [.token ⟨.number number, _, _, _⟩] => .value (.node (.constant (.number number)))
  | _ => .nothing

/-- An entry of a dictionary. -/
def entryOf : Value → Option (Option Node × Node)
  | .many [.nothing, .node value] => some (none, value)
  | .many [.node key, .node value] => some (some key, value)
  | _ => none

/-! ## Arguments -/

/-- Arguments behind the name of a function: a call that is still without it. -/
def argumentsOf (positional keywords : List Value) : Value :=
  let isStarred : Node → Bool
    | .starred _ => true
    | _ => false
  let unpacked := (nodesOf keywords).filter isStarred
  .node (.call (.name "") (nodesOf positional ++ unpacked)
    ((nodesOf keywords).filter (!isStarred ·)))

/-- A call of a function with arguments, if there are some. -/
def callOf (function : Node) : Value → Value
  | .node (.call _ arguments keywords) => .node (.call function arguments keywords)
  | _ => .node (.call function [] [])

def keywordOf (isNamed : Bool) (patterns : List (Pattern Rule)) : Alternative Rule :=
  row patterns fun _ => .value (.node (.keyword isNamed))

/-- An argument that is no starred one: an expression, perhaps with a name for its value. -/
def argument : Pattern Rule :=
  oneOf [Rule.naming, inside 0 [Rule.expression, .notAhead (signed ":=")]]

/-- A closing bracket with an opening one and what stands between them. -/
def between (opening closing : String) (content : List (Pattern Rule)) : List (Pattern Rule) :=
  signed opening :: content ++ [signed closing]

/-! ## Messages -/

/-- What is wrong with an equals sign in the place of a comparison. -/
def equalsHint : String :=
  "invalid syntax. Maybe you meant '==' or ':=' instead of '='?"

def parenthesesHint : String :=
  "Generator expression must be parenthesized"

def starredValueHint : String :=
  "cannot use a starred expression in a dictionary value"

def missingValueHint : String :=
  "expression expected after dictionary key and ':'"

def targetParenthesesHint : String :=
  "did you forget parentheses around the comprehension target?"

/-- Whether a value is a name that once started a statement of its own. -/
def formerStatement? : Value → Option String
  | .token ⟨.name word, _, _, _⟩ | .node (.name word) =>
      let word := Text.plainName word
      if word = "print" || word = "exec" then some word else none
  | _ => none

/-- What is wrong with two expressions in a row. Outside of brackets they may belong to statements
of their own. -/
def neighbours : List Value → Outcome
  | [_, first, _, .token last] =>
      if (formerStatement? first).isSome || last.depth = 0 then .nothing
      else .mistake "invalid syntax. Perhaps you forgot a comma?"
  | _ => .nothing

/-- What is wrong with arguments in front of further ones. -/
def argumentOrder : List Value → Outcome
  | .node (.call _ _ keywords) :: _ =>
      let isUnpacked : Node → Bool
        | .keyword isNamed => !isNamed
        | _ => false
      .mistake (if keywords.any isUnpacked then
          "positional argument follows keyword argument unpacking"
        else "positional argument follows keyword argument")
  | _ => .nothing

/-! ## Parameters -/

/-- A parameter with the comma behind it, or as the last one. -/
def parameterRow (patterns : List (Pattern Rule)) : List (Alternative Rule) :=
  [matched (patterns ++ [signed ","]), matched (patterns ++ [.ahead (signed ":")])]

/-- Parameters in front of a slash with the comma behind it, or at the end. -/
def slashRow (patterns : List (Pattern Rule)) : List (Alternative Rule) :=
  parameterRow (patterns ++ [signed "/"])

/-! ## Definitions -/

/-- The definition of each rule. `readTexts` reads texts between quotes that stand in a row. -/
def define (readTexts : List Token → Outcome) : Rule → Definition Rule
  -- Whole writings
  | .whole => { alternatives :=
      [rowAt 0 [Rule.expressions, .many (.token (· = .lineEnd)), .token (· = .textEnd)]] }
  | .embedded => { alternatives := [only Rule.starredRow] }
  -- Expressions in rows
  | .expressions => { alternatives := commaRow Rule.expression }
  | .yielding => { alternatives :=
      [rowOf "yield expression" [worded "yield", worded "from", Rule.expression],
       rowOf "yield expression" [worded "yield", .optional Rule.starredRow]] }
  | .starredRow => { alternatives := commaRow Rule.starredItem }
  | .starredItem =>
      { alternatives := [starredOf [signed "*", Rule.bitOr], only Rule.expression]
        memory := .remembers }
  | .namedItems => { alternatives :=
      [rowAt 0 [.separated (signed ",") Rule.namedItem, .optional (signed ",")]] }
  | .namedItem => { alternatives :=
      [starredOf [signed "*", Rule.bitOr], only Rule.named] }
  -- Operators
  | .expression =>
      { alternatives :=
          [diagnosis [Rule.wrongExpression], diagnosis [Rule.wrongStatement],
           rowOf "conditional expression"
             [Rule.disjunction, worded "if", Rule.disjunction, worded "else", Rule.expression],
           only Rule.disjunction, only Rule.function]
        memory := .remembers }
  | .plainExpression =>
      { alternatives :=
          [rowOf "conditional expression"
             [Rule.disjunction, worded "if", Rule.disjunction, worded "else", Rule.expression],
           only Rule.disjunction, only Rule.function]
        isPlain := true }
  | .naming => { alternatives :=
      [rowOf "named expression" [nameToken, signed ":=", .commit, Rule.expression]] }
  | .named => { alternatives :=
      [only Rule.naming, diagnosis [Rule.wrongNaming],
       rowAt 0 [Rule.expression, .notAhead (signed ":=")]] }
  | .disjunction =>
      { alternatives := joinedBy "or" Rule.conjunction, memory := .remembers }
  | .conjunction =>
      { alternatives := joinedBy "and" Rule.inversion, memory := .remembers }
  | .inversion =>
      { alternatives :=
          [rowOf "expression" [worded "not", Rule.inversion], only Rule.comparison]
        memory := .remembers }
  | .comparison => { alternatives :=
      [row [Rule.bitOr, .several Rule.compared] fun
         | [.node left, pairs] => .value (.node (.comparison (firstOperator pairs) left))
         | _ => .nothing,
       only Rule.bitOr] }
  | .compared => { alternatives :=
      [comparedBy [signed "=="], comparedBy [signed "!="], comparedBy [signed "<="],
       comparedBy [signed "<"], comparedBy [signed ">="], comparedBy [signed ">"],
       comparedBy [worded "not", worded "in"], comparedBy [worded "in"],
       comparedBy [worded "is", worded "not"], comparedBy [worded "is"]] }
  | .bitOr =>
      { alternatives := [binary "|" Rule.bitOr Rule.bitXor, only Rule.bitXor], memory := .grows }
  | .bitXor =>
      { alternatives := [binary "^" Rule.bitXor Rule.bitAnd, only Rule.bitAnd], memory := .grows }
  | .bitAnd =>
      { alternatives := [binary "&" Rule.bitAnd Rule.shift, only Rule.shift], memory := .grows }
  | .shift =>
      { alternatives :=
          [binary "<<" Rule.shift Rule.sum, binary ">>" Rule.shift Rule.sum, only Rule.sum]
        memory := .grows }
  | .sum =>
      { alternatives :=
          [binary "+" Rule.sum Rule.term, binary "-" Rule.sum Rule.term, only Rule.term]
        memory := .grows }
  | .term =>
      { alternatives :=
          [binary "*" Rule.term Rule.factor, binary "/" Rule.term Rule.factor,
           binary "//" Rule.term Rule.factor, binary "%" Rule.term Rule.factor,
           binary "@" Rule.term Rule.factor, only Rule.factor]
        memory := .grows }
  | .factor =>
      { alternatives :=
          [prefixed "+" Rule.factor, prefixed "-" Rule.factor, prefixed "~" Rule.factor,
           only Rule.power]
        memory := .remembers }
  | .power => { alternatives := [binary "**" Rule.awaited Rule.factor, only Rule.awaited] }
  | .awaited =>
      { alternatives := [rowOf "await expression" [worded "await", Rule.primary], only Rule.primary]
        memory := .remembers }
  | .primary =>
      { alternatives :=
          [row [Rule.primary, signed ".", nameToken] fun _ => .value (.node .attribute),
           row [Rule.primary, Rule.generator] fun
             | [.node function, .node argument] => .value (.node (.call function [argument] []))
             | _ => .nothing,
           row [Rule.primary, signed "(", .optional Rule.arguments, signed ")"] fun
             | [.node function, _, arguments, _] => .value (callOf function arguments)
             | _ => .nothing,
           row [Rule.primary, signed "[", Rule.slices, signed "]"] fun _ =>
             .value (.node .subscript),
           only Rule.atom]
        memory := .grows }
  -- Operands
  | .atom => { alternatives :=
      [row [nameToken] fun
         | [.token ⟨.name word, _, _, _⟩] => .value (.node (.name (Text.plainName word)))
         | _ => .nothing,
       constantOf (worded "True") .trueWord, constantOf (worded "False") .falseWord,
       constantOf (worded "None") .noneWord,
       rowAt 1 [.ahead textToken, Rule.texts],
       row [numberToken] numberOf,
       rowAt 1 [.ahead (signed "("), oneOf [Rule.tuple, Rule.group, Rule.generator]],
       rowAt 1 [.ahead (signed "["), oneOf [Rule.list, Rule.listOf]],
       rowAt 1 [.ahead (signed "\x7b"), oneOf [Rule.dict, Rule.set, Rule.dictOf, Rule.setOf]],
       constantOf (signed "...") .ellipsis] }
  | .texts =>
      { alternatives :=
          [row [.several textToken] fun
             | [.many values] => readTexts (values.filterMap fun
                 | .token token => some token
                 | _ => none)
             | _ => .nothing]
        memory := .remembers }
  | .group => { alternatives :=
      [rowAt 1 (between "(" ")" [oneOf [Rule.yielding, Rule.named]]),
       diagnosis [Rule.wrongGroup]] }
  | .list => { alternatives :=
      [row (between "[" "]" [.optional Rule.namedItems]) fun values =>
         .value (.node (.list (nodesOf (itemsOf (values.getD 1 .nothing)))))] }
  | .tuple => { alternatives :=
      [row (between "(" ")"
          [.optional (.choice [row [Rule.namedItem, signed ",", .optional Rule.namedItems] fun
            | [first, _, following] => .value (.many (first :: itemsOf following))
            | _ => .nothing])]) fun values =>
         .value (.node (.tuple (nodesOf (itemsOf (values.getD 1 .nothing)))))] }
  | .set => { alternatives :=
      [row (between "\x7b" "\x7d" [Rule.namedItems]) fun values =>
         .value (.node (.set (nodesOf (itemsOf (values.getD 1 .nothing)))))] }
  | .dict => { alternatives :=
      [row (between "\x7b" "\x7d" [.optional Rule.entries]) fun values =>
         .value (.node (.dict ((itemsOf (values.getD 1 .nothing)).filterMap entryOf))),
       matched (between "\x7b" "\x7d" [Rule.wrongEntries])] }
  | .entries => { alternatives :=
      [rowAt 0 [.separated (signed ",") Rule.entry, .optional (signed ",")]] }
  | .entry => { alternatives :=
      [row [signed "**", Rule.bitOr] fun
         | [_, value] => .value (.many [.nothing, value])
         | _ => .nothing,
       only Rule.pair] }
  | .pair => { alternatives :=
      [row [Rule.expression, signed ":", Rule.expression] fun
         | [key, _, value] => .value (.many [key, value])
         | _ => .nothing] }
  | .slices => { alternatives :=
      [rowAt 0 [Rule.slice, .notAhead (signed ",")],
       matched [.separated (signed ",") (oneOf [Rule.slice, Rule.starredArgument]),
         .optional (signed ",")]] }
  | .slice => { alternatives :=
      [matched [.optional Rule.expression, signed ":", .optional Rule.expression,
         .optional (inside 0 [signed ":", .optional Rule.expression])],
       only Rule.named] }
  -- Comprehensions
  | .clauses => { alternatives := [matched [.several Rule.clause]] }
  | .clause =>
      let source : List (Pattern Rule) :=
        [worded "for", Rule.targets, worded "in", .commit, Rule.disjunction,
         .many (inside 1 [worded "if", Rule.disjunction])]
      { alternatives :=
          [matched (worded "async" :: source), matched source, diagnosis [Rule.wrongTarget]] }
  | .listOf => { alternatives :=
      [rowOf "list comprehension" (between "[" "]" [Rule.named, Rule.clauses]),
       diagnosis [Rule.wrongComprehension]] }
  | .setOf => { alternatives :=
      [rowOf "set comprehension" (between "\x7b" "\x7d" [Rule.named, Rule.clauses]),
       diagnosis [Rule.wrongComprehension]] }
  | .generator => { alternatives :=
      [rowOf "generator expression" (between "(" ")" [argument, Rule.clauses]),
       diagnosis [Rule.wrongComprehension]] }
  | .dictOf => { alternatives :=
      [rowOf "dict comprehension" (between "\x7b" "\x7d" [Rule.pair, Rule.clauses]),
       diagnosis [Rule.wrongDictOf]] }
  -- Arguments
  | .arguments =>
      { alternatives :=
          [rowAt 0 [Rule.givenArguments, .optional (signed ","), .ahead (signed ")")],
           diagnosis [Rule.wrongArguments]]
        memory := .remembers }
  | .givenArguments => { alternatives :=
      [row [.separated (signed ",")
              (oneOf [Rule.starredArgument, inside 0 [argument, .notAhead (signed "=")]]),
            .optional (inside 1 [signed ",", Rule.keywordArguments])] fun
         | [positional, keywords] =>
             .value (argumentsOf (itemsOf positional) (itemsOf keywords))
         | _ => .nothing,
       row [Rule.keywordArguments] fun values =>
         .value (argumentsOf [] (values.flatMap itemsOf))] }
  | .keywordArguments =>
      let starred : Pattern Rule := .separated (signed ",") Rule.keywordOrStarred
      let unpacked : Pattern Rule := .separated (signed ",") Rule.keywordOrUnpacked
      { alternatives :=
          [row [starred, signed ",", unpacked] fun values =>
             .value (.many (values.flatMap itemsOf)),
           only starred, only unpacked] }
  | .starredArgument => { alternatives := [starredOf [signed "*", Rule.expression]] }
  | .keywordOrStarred => { alternatives :=
      [diagnosis [Rule.wrongKeyword],
       keywordOf true [nameToken, signed "=", Rule.expression], only Rule.starredArgument] }
  | .keywordOrUnpacked => { alternatives :=
      [diagnosis [Rule.wrongKeyword],
       keywordOf true [nameToken, signed "=", Rule.expression],
       keywordOf false [signed "**", Rule.expression]] }
  -- Targets
  | .targets => { alternatives :=
      [matched [Rule.target, .notAhead (signed ",")],
       matched [Rule.target, .many (inside 1 [signed ",", Rule.target]),
         .optional (signed ",")]] }
  | .listedTargets => { alternatives :=
      [matched [.separated (signed ",") Rule.target, .optional (signed ",")]] }
  | .tupledTargets => { alternatives :=
      [matched [Rule.target, .several (inside 1 [signed ",", Rule.target]),
         .optional (signed ",")],
       matched [Rule.target, signed ","]] }
  | .target =>
      { alternatives :=
          [matched [signed "*", inside 1 [.notAhead (signed "*"), Rule.target]],
           only Rule.plainTarget]
        memory := .remembers }
  | .plainTarget =>
      { alternatives :=
          [matched [Rule.targetPrimary, signed ".", nameToken, .notAhead Rule.accessAhead],
           matched [Rule.targetPrimary, signed "[", Rule.slices, signed "]",
             .notAhead Rule.accessAhead],
           only Rule.targetAtom]
        memory := .remembers }
  | .targetAtom => { alternatives :=
      [matched [nameToken], matched (between "(" ")" [Rule.plainTarget]),
       matched (between "(" ")" [.optional Rule.tupledTargets]),
       matched (between "[" "]" [.optional Rule.listedTargets])] }
  | .targetPrimary =>
      { alternatives :=
          [matched [Rule.targetPrimary, signed ".", nameToken, .ahead Rule.accessAhead],
           matched [Rule.targetPrimary, signed "[", Rule.slices, signed "]",
             .ahead Rule.accessAhead],
           matched [Rule.targetPrimary, Rule.generator, .ahead Rule.accessAhead],
           matched [Rule.targetPrimary, signed "(", .optional Rule.arguments, signed ")",
             .ahead Rule.accessAhead],
           matched [Rule.atom, .ahead Rule.accessAhead]]
        memory := .grows }
  | .accessAhead => { alternatives := [only (signed "("), only (signed "["), only (signed ".")] }
  -- Functions without a name
  | .function => { alternatives :=
      [rowOf "lambda"
        [worded "lambda", .optional Rule.checkedParameters, signed ":", Rule.expression]] }
  | .checkedParameters => { alternatives :=
      [diagnosis [Rule.wrongParameters], only Rule.parameters] }
  | .parameters => { alternatives :=
      [matched [Rule.positionalOnly, .many Rule.bareParameter, .many Rule.defaultedParameter,
         .optional Rule.starParameters],
       matched [Rule.positionalOnlyDefaulted, .many Rule.defaultedParameter,
         .optional Rule.starParameters],
       matched [.several Rule.bareParameter, .many Rule.defaultedParameter,
         .optional Rule.starParameters],
       matched [.several Rule.defaultedParameter, .optional Rule.starParameters],
       matched [Rule.starParameters]] }
  | .positionalOnly => { alternatives := slashRow [.several Rule.bareParameter] }
  | .positionalOnlyDefaulted =>
      { alternatives := slashRow [.many Rule.bareParameter, .several Rule.defaultedParameter] }
  | .starParameters => { alternatives :=
      [diagnosis [Rule.wrongStar],
       matched [signed "*", Rule.bareParameter, .many Rule.anyParameter,
         .optional Rule.keywordParameters],
       matched [signed "*", signed ",", .several Rule.anyParameter,
         .optional Rule.keywordParameters],
       matched [Rule.keywordParameters]] }
  | .keywordParameters => { alternatives :=
      [diagnosis [Rule.wrongKeywords], matched [signed "**", Rule.bareParameter]] }
  | .bareParameter => { alternatives := parameterRow [Rule.parameter] }
  | .defaultedParameter => { alternatives := parameterRow [Rule.parameter, Rule.defaultValue] }
  | .anyParameter =>
      { alternatives := parameterRow [Rule.parameter, .optional Rule.defaultValue] }
  | .parameter => { alternatives := [only nameToken] }
  | .defaultValue => { alternatives :=
      [rowAt 1 [signed "=", Rule.expression], diagnosis [Rule.wrongDefault]] }
  -- Mistakes
  | .wrongExpression => { alternatives :=
      [row [.notAhead (oneOf [inside 0 [nameToken, textToken], softKeyword]), Rule.disjunction,
            Rule.plainExpression, .lastTaken] neighbours,
       mistake [Rule.disjunction, worded "if", Rule.disjunction,
           .notAhead (oneOf [worded "else", signed ":"])]
         "expected 'else' after 'if' expression"] }
  | .wrongStatement => { alternatives :=
      [row [nameToken, .notAhead (signed "("), Rule.starredRow] fun values =>
         match values.head?.bind formerStatement? with
         | some word =>
             .mistake s!"Missing parentheses in call to '{word}'. Did you mean {word}(...)?"
         | none => .nothing] }
  | .wrongNaming =>
      { alternatives :=
          [row [Rule.expression, signed ":=", Rule.expression] fun
             | .node given :: _ =>
                 .mistake s!"cannot use assignment expressions with {given.word}"
             | _ => .nothing,
           mistake [nameToken, signed "=", Rule.bitOr, .notAhead (oneOf [signed "=", signed ":="])]
             equalsHint,
           row [.notAhead (oneOf [Rule.list, Rule.tuple, Rule.generator, worded "True",
                  worded "None", worded "False"]),
                Rule.bitOr, signed "=", Rule.bitOr,
                .notAhead (oneOf [signed "=", signed ":="])] fun
             | _ :: .node given :: _ =>
                 .mistake (s!"cannot assign to {given.word} here. " ++
                   "Maybe you meant '==' instead of '='?")
             | _ => .nothing]
        memory := .remembers }
  | .wrongGroup => { alternatives :=
      [mistake (between "(" ")" [Rule.starredArgument]) "cannot use starred expression here",
       mistake (between "(" ")" [signed "**", Rule.expression])
         "cannot use double starred expression here"] }
  | .wrongEntries => { alternatives :=
      [matched [.separated (signed ",") Rule.entry, signed ",", Rule.wrongEntry],
       mistake [Rule.expression, signed ":", signed "*", Rule.bitOr] starredValueHint,
       mistake [Rule.expression, signed ":", .ahead (oneOf [signed "\x7d", signed ","])]
         missingValueHint] }
  | .wrongEntry => { alternatives :=
      [mistake [Rule.expression, .notAhead (signed ":")] "':' expected after dictionary key",
       mistake [Rule.expression, signed ":", signed "*", Rule.bitOr] starredValueHint,
       mistake [Rule.expression, signed ":", .ahead (oneOf [signed "\x7d", signed ","])]
         missingValueHint] }
  | .wrongComprehension =>
      let square : Pattern Rule := oneOf [signed "[", signed "\x7b"]
      { alternatives :=
          [mistake [oneOf [signed "[", signed "(", signed "\x7b"], Rule.starredArgument,
               Rule.clauses]
             "iterable unpacking cannot be used in comprehension",
           mistake [square, Rule.namedItem, signed ",", Rule.namedItems, Rule.clauses]
             targetParenthesesHint,
           mistake [square, Rule.namedItem, signed ",", Rule.clauses] targetParenthesesHint] }
  | .wrongDictOf => { alternatives :=
      [mistake (between "\x7b" "\x7d" [signed "**", Rule.bitOr, Rule.clauses])
         "dict unpacking cannot be used in dict comprehension"] }
  | .wrongTarget => { alternatives :=
      [row [.optional (worded "async"), worded "for", Rule.starredRow] fun
         | [_, _, .node given] =>
             match given.invalidTarget? with
             | some part => .mistake s!"cannot assign to {part.word}"
             | none => .nothing
         | _ => .nothing] }
  | .wrongArguments => { alternatives :=
      [mistake [Rule.givenArguments, signed ",", signed "*"]
         "iterable argument unpacking follows keyword argument unpacking",
       mistake [Rule.expression, Rule.clauses, signed ",",
           .optional (oneOf [Rule.givenArguments, inside 0 [Rule.expression, Rule.clauses]])]
         parenthesesHint,
       mistake [nameToken, signed "=", Rule.expression, Rule.clauses] equalsHint,
       row [Rule.givenArguments, Rule.clauses] fun
         | .node (.call _ given _) :: _ =>
             if given.length ≤ 1 then .nothing else .mistake parenthesesHint
         | _ => .nothing,
       mistake [Rule.givenArguments, signed ",", Rule.expression, Rule.clauses] parenthesesHint,
       row [Rule.givenArguments, signed ",", Rule.givenArguments] argumentOrder] }
  | .wrongKeyword => { alternatives :=
      [row [oneOf [worded "True", worded "False", worded "None"], signed "="] fun
         | .token ⟨.keyword word, _, _, _⟩ :: _ => .mistake s!"cannot assign to {word}"
         | _ => .nothing,
       mistake [nameToken, signed "=", Rule.expression, Rule.clauses] equalsHint,
       mistake [.notAhead (inside 0 [nameToken, signed "="]), Rule.expression, signed "="]
         "expression cannot contain assignment, perhaps you meant \"==\"?"] }
  | .wrongParameters =>
      let slashed : Pattern Rule := oneOf [Rule.positionalOnly, Rule.positionalOnlyDefaulted]
      { alternatives :=
          [mistake [.many Rule.bareParameter, Rule.wrongDefaulted, Rule.bareParameter]
             "non-default argument follows default argument",
           mistake [.many Rule.bareParameter, signed "(",
               .separated (signed ",") Rule.parameter, .optional (signed ","), signed ")"]
             "Lambda expression parameters cannot be parenthesized",
           mistake [signed "/", signed ","] "at least one argument must precede /",
           mistake [slashed, .many Rule.anyParameter, signed "/"] "/ may appear only once",
           mistake [.optional slashed, .many Rule.anyParameter, signed "*",
               oneOf [signed ",", Rule.bareParameter], .many Rule.anyParameter, signed "/"]
             "/ must be ahead of *",
           mistake [.several Rule.anyParameter, signed "/", signed "*"]
             "expected comma between / and *"] }
  | .wrongDefaulted => { alternatives :=
      [matched [Rule.positionalOnlyDefaulted], matched [.several Rule.defaultedParameter]] }
  | .wrongStar => { alternatives :=
      [mistake [signed "*", oneOf [signed ":",
             inside 0 [signed ",", oneOf [signed ":", signed "**"]]]]
         "named arguments must follow bare *",
       mistake [signed "*", Rule.parameter, signed "="]
         "var-positional argument cannot have default value",
       mistake [signed "*", oneOf [Rule.bareParameter, signed ","], .many Rule.anyParameter,
           signed "*", oneOf [Rule.bareParameter, signed ","]]
         "* argument may appear only once"] }
  | .wrongKeywords => { alternatives :=
      [mistake [signed "**", Rule.parameter, signed "="]
         "var-keyword argument cannot have default value",
       mistake [signed "**", Rule.parameter, signed ",", Rule.parameter]
         "arguments cannot follow var-keyword argument",
       mistake [signed "**", Rule.parameter, signed ",",
           oneOf [signed "*", signed "**", signed "/"]]
         "arguments cannot follow var-keyword argument"] }
  | .wrongDefault => { alternatives :=
      [mistake [signed "=", .ahead (oneOf [signed ")", signed ","])]
         "expected default value expression"] }

/-- The grammar of a reading with its wording of messages. -/
def grammar (wording : String → String) (readTexts : List Token → Outcome) : Grammar Rule :=
  { define := define readTexts, wording }

end Literal
end Console
end Typings
