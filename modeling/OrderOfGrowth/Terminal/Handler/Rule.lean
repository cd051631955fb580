import OrderOfGrowth.Terminal.Handler.Literal
import OrderOfGrowth.Terminal.Handler.Phrase

/-!
# The rules of expressions

How expressions are written, and the mistakes in them that have a description of their own.
-/

namespace OrderOfGrowth.Terminal

/-- The rules. -/
inductive Rule where
  | whole
  | inner
  | expressions
  | expression
  | plainExpression
  | yielding
  | starExpressions
  | starExpression
  | starNamedRow
  | starNamed
  | assignment
  | named
  | argumentExpression
  | disjunction
  | conjunction
  | inversion
  | comparison
  | compared
  | bitOr
  | bitXor
  | bitAnd
  | shift
  | sum
  | term
  | factor
  | power
  | awaited
  | primary
  | atom
  | strings
  | group
  | tuple
  | set
  | dictionary
  | pairs
  | pair
  | entry
  | generator
  | setBuilder
  | dictionaryBuilder
  | forClauses
  | forClause
  | arguments
  | argumentList
  | namedArguments
  | namedOrStarred
  | namedOrSpread
  | starred
  | function
  | parameters
  | parameterList
  | slashWithoutDefault
  | slashWithDefault
  | parameterStar
  | parameterPairs
  | parameterWithoutDefault
  | parameterWithDefault
  | anyParameter
  | defaultValue
  | targets
  | target
  | starTarget
  | targetAtom
  | targetTuple
  | targetPrimary
  | wrongExpression
  | wrongStatement
  | wrongNamed
  | wrongGroup
  | wrongBuilder
  | wrongDictionaryBuilder
  | wrongPairs
  | wrongEntry
  | wrongForTarget
  | wrongArguments
  | wrongNamedArgument
  | wrongParameters
  | wrongParameterStar
  | wrongParameterPairs
  | wrongDefault

namespace Rule

/-! ## What phrases make together -/

/-- What phrases make. -/
abbrev Build := List Node → Except HandlerProblem (Option Node)

/-- One of the nodes. -/
def pick (index : Nat) : Build := fun nodes => .ok nodes[index]?

/-- An expression, whatever the nodes are. -/
def make (expression : Expression) : Build := fun _ => .ok (some (.expression expression))

/-- A problem, whatever the nodes are. -/
def raise (problem : HandlerProblem) : Build := fun _ => .error problem

/-- The expression that a node is. -/
def expressionOf : Node → Expression
  | .expression found => found
  | _ => .ellipsis

/-- One of the expressions among the nodes. -/
def expressionAt (nodes : List Node) (index : Nat) : Expression :=
  expressionOf (nodes[index]?.getD .nothing)

/-- The nodes in a list. -/
def itemsOf : Node → List Node
  | .list items => items
  | _ => []

/-- The nodes in a list among the nodes. -/
def itemsAt (nodes : List Node) (index : Nat) : List Node := itemsOf (nodes[index]?.getD .nothing)

/-- The expressions in a list of pairs of a comma and an expression. -/
def behindCommas (items : List Node) : List Expression :=
  items.map fun item => expressionAt (itemsOf item) 1

/-- An expression made from the nodes. -/
def makeFrom (build : List Node → Expression) : Build :=
  fun nodes => .ok (some (.expression (build nodes)))

/-- A problem made from the nodes, or nothing. -/
def raiseFrom (build : List Node → Option HandlerProblem) : Build := fun nodes =>
  match build nodes with
  | some problem => .error problem
  | none => .ok none

/-- A problem with the description of one of the expressions. -/
def raiseAbout (problem : String → HandlerProblem) (index : Nat) : Build :=
  fun nodes => .error (problem (expressionAt nodes index).describe)

/-- A literal with the number of the first node. -/
def makeNumber : Build := fun nodes =>
  match nodes with
  | .token (.number text) :: _ => (Literal.number text).map fun found => some (.expression found)
  | _ => .ok none

/-- A literal with the strings of the first node. -/
def makeStrings (reader : Literal.InnerReader) : Build := fun nodes =>
  let row := (itemsAt nodes 0).filterMap fun node =>
    match node with
    | .token (.string letters body) => some (letters, body)
    | _ => none
  (Literal.strings reader row).map fun found => some (.expression found)

/-- A constant with the word of the first node. -/
def makeConstant : Build := fun nodes =>
  match nodes with
  | .token (.name word) :: _ => .ok (some (.expression (.constant word)))
  | _ => .ok none

/-- The arguments of a node. -/
def argumentsOf : Node → List ArgumentKind
  | .arguments kinds => kinds
  | .expression _ => [.positional]
  | _ => []

/-- Arguments from nodes and from a list of nodes among them. -/
def makeArguments : Build := fun nodes =>
  .ok (some (.arguments (nodes.flatMap fun node =>
    match node with
    | .list items => items.flatMap fun item => argumentsOf item
    | other => argumentsOf other)))

/-- Whether an expression is a word that was a statement once. -/
def statement? : Expression → Option String
  | .name text => if String.ofList text ∈ ["print", "exec"] then some (String.ofList text) else none
  | _ => none

/-! ## Alternatives -/

/-- An alternative that gives one of its nodes. -/
def giving (index : Nat) (phrases : List (Phrase Rule)) : Alternative Rule := ⟨phrases, pick index⟩

/-- An alternative that is one phrase. -/
def only (phrase : Phrase Rule) : Alternative Rule := ⟨[phrase], pick 0⟩

/-- The alternatives for an operand on one level: some operand of the next level, and signs with
operands behind it. -/
def signLevel (next : Rule) (signs : List String) (build : List Node → Expression) :
    Definition Rule where
  alternatives := [only (.rule next)]
  continuations := signs.map fun sign => ⟨[.sign sign, .rule next], makeFrom build⟩
  isLasting := true

/-- The alternatives for operands of the next level that words join. -/
def joinedLevel (next : Rule) (word : String) : Definition Rule where
  alternatives := [
    ⟨[.rule next, .some (.sequence [.word word, .rule next])], make .operation⟩,
    only (.rule next)]
  isLasting := true

/-- The alternatives for expressions of a rule with commas between them. -/
def commaLevel (next : Rule) : List (Alternative Rule) := [
  ⟨[.rule next, .some (.sequence [.sign ",", .rule next]), .option (.sign ",")],
    makeFrom fun nodes => .tuple (expressionAt nodes 0 :: behindCommas (itemsAt nodes 1))⟩,
  ⟨[.rule next, .sign ","], makeFrom fun nodes => .tuple [expressionAt nodes 0]⟩,
  only (.rule next)]

/-- The alternatives for an expression without those for mistakes. -/
def expressionForms : List (Alternative Rule) := [
  ⟨[.rule disjunction, .word "if", .rule disjunction, .word "else", .rule expression],
    make .choice⟩,
  only (.rule disjunction),
  only (.rule function)]

/-- The sign that opens braces. -/
def openBrace : Phrase Rule := .sign "\x7b"

/-- The sign that closes braces. -/
def closeBrace : Phrase Rule := .sign "\x7d"

/-- An expression that does not go on with a sign. -/
def notBefore (sign : String) (name : Rule) : Phrase Rule :=
  .sequence [.rule name, .absent (.sign sign)]

/-- What comes behind an operand that goes on. -/
def goesOn : Phrase Rule := .oneOf [.sign "(", .sign "."]

/-- An equals sign or a colon with one. -/
def anyEquals : Phrase Rule := .oneOf [.sign "=", .sign ":="]

/-- The phrases of the loop of a generator behind its first word. -/
def loopPhrases : List (Phrase Rule) :=
  [.word "for", .rule targets, .word "in", .decided, .rule disjunction,
    .many (.sequence [.word "if", .rule disjunction])]

/-- A parameter with what must stand behind it. -/
def parameterForms (phrases : List (Phrase Rule)) : List (Alternative Rule) :=
  [⟨phrases ++ [.sign ","], pick 0⟩, ⟨phrases ++ [.ahead (.sign ":")], pick 0⟩]

/-- Two kinds of parameters with a slash behind them. -/
def anySlash : Phrase Rule := .oneOf [.rule slashWithoutDefault, .rule slashWithDefault]

/-- The rules. The strings of an expression may contain expressions, which `reader` reads. -/
def define (reader : Literal.InnerReader) : Rule → Definition Rule
  | whole => { alternatives := [giving 0 [.rule expressions, .many .lineEnd, .finish]] }
  | inner => { alternatives := [only (.rule starExpressions)] }
  | expressions => { alternatives := commaLevel expression }
  | expression => {
      alternatives :=
        [only (.mistake wrongExpression), only (.mistake wrongStatement)] ++ expressionForms
      isLasting := true }
  | plainExpression => { alternatives := expressionForms, isPlain := true }
  | yielding => {
      alternatives := [
        ⟨[.word "yield", .word "from", .rule expression], make .yielded⟩,
        ⟨[.word "yield", .option (.rule starExpressions)], make .yielded⟩] }
  | starExpressions => { alternatives := commaLevel starExpression }
  | starExpression => {
      alternatives := [
        ⟨[.sign "*", .rule bitOr], makeFrom fun nodes => .starred (expressionAt nodes 1)⟩,
        only (.rule expression)]
      isLasting := true }
  | starNamedRow => { alternatives := [giving 0 [.row (.rule starNamed), .option (.sign ",")]] }
  | starNamed => {
      alternatives := [
        ⟨[.sign "*", .rule bitOr], makeFrom fun nodes => .starred (expressionAt nodes 1)⟩,
        only (.rule named)] }
  | assignment => {
      alternatives := [⟨[.name, .sign ":=", .decided, .rule expression], make .binding⟩] }
  | named => {
      alternatives := [
        only (.rule assignment),
        only (.mistake wrongNamed),
        giving 0 [.rule expression, .absent (.sign ":=")]] }
  | argumentExpression => {
      alternatives := [
        only (.rule assignment), giving 0 [.rule expression, .absent (.sign ":=")]] }
  | disjunction => joinedLevel conjunction "or"
  | conjunction => joinedLevel inversion "and"
  | inversion => {
      alternatives := [
        ⟨[.word "not", .rule inversion], make .operation⟩, only (.rule comparison)]
      isLasting := true }
  | comparison => {
      alternatives := [
        ⟨[.rule bitOr, .some (.rule compared)], makeFrom fun nodes =>
          .comparison (expressionAt nodes 0) ((itemsAt nodes 1).head?.any (· matches .token _))⟩,
        only (.rule bitOr)] }
  | compared => {
      alternatives :=
        ["==", "!=", "<=", "<", ">=", ">"].map (fun sign =>
          ⟨[.sign sign, .rule bitOr], fun _ => .ok (some .nothing)⟩) ++ [
        ⟨[.word "not", .word "in", .rule bitOr], fun _ => .ok (some .nothing)⟩,
        giving 0 [.word "in", .rule bitOr],
        ⟨[.word "is", .word "not", .rule bitOr], fun _ => .ok (some .nothing)⟩,
        ⟨[.word "is", .rule bitOr], fun _ => .ok (some .nothing)⟩] }
  | bitOr => signLevel bitXor ["|"] fun _ => .operation
  | bitXor => signLevel bitAnd ["^"] fun _ => .operation
  | bitAnd => signLevel shift ["&"] fun _ => .operation
  | shift => signLevel sum ["<<", ">>"] fun _ => .operation
  | sum => signLevel term ["+", "-"] fun nodes => .sum (expressionAt nodes 0) (expressionAt nodes 2)
  | term => signLevel factor ["*", "/", "//", "%", "@"] fun _ => .operation
  | factor => {
      alternatives := [
        ⟨[.sign "+", .rule factor], makeFrom fun nodes => .signed (expressionAt nodes 1)⟩,
        ⟨[.sign "-", .rule factor], makeFrom fun nodes => .signed (expressionAt nodes 1)⟩,
        ⟨[.sign "~", .rule factor], make .operation⟩,
        only (.rule power)]
      isLasting := true }
  | power => {
      alternatives := [
        ⟨[.rule awaited, .sign "**", .rule factor], make .operation⟩, only (.rule awaited)] }
  | awaited => {
      alternatives := [⟨[.word "await", .rule primary], make .awaited⟩, only (.rule primary)]
      isLasting := true }
  | primary => {
      alternatives := [only (.rule atom)]
      continuations := [
        ⟨[.sign ".", .name], make .member⟩,
        ⟨[.rule generator], make (.call false)⟩,
        ⟨[.sign "(", .option (.rule arguments), .sign ")"], makeFrom fun nodes =>
          match nodes with
          | .expression (.name text) :: _ :: .nothing :: _ => .call (text == "set".toList)
          | _ => .call false⟩]
      isLasting := true }
  | atom => {
      alternatives := [
        only .name,
        ⟨[.oneOf [.word "True", .word "False", .word "None"]], makeConstant⟩,
        giving 0 [.ahead .string, .rule strings],
        ⟨[.number], makeNumber⟩,
        giving 0 [.ahead (.sign "("), .oneOf [.rule tuple, .rule group, .rule generator]],
        giving 0 [.ahead openBrace,
          .oneOf [.rule dictionary, .rule set, .rule dictionaryBuilder, .rule setBuilder]],
        ⟨[.sign "..."], make .ellipsis⟩] }
  | strings => { alternatives := [⟨[.some .string], makeStrings reader⟩], isLasting := true }
  | group => {
      alternatives := [
        giving 1 [.sign "(", .oneOf [.rule yielding, .rule named], .sign ")"],
        only (.mistake wrongGroup)] }
  | tuple => {
      alternatives := [
        ⟨[.sign "(", .option (.sequence [.rule starNamed, .sign ",", .option (.rule starNamedRow)]),
            .sign ")"],
          makeFrom fun nodes =>
            match itemsAt nodes 1 with
            | [first, _, rest] => .tuple (expressionOf first :: (itemsOf rest).map expressionOf)
            | _ => .tuple []⟩] }
  | set => {
      alternatives := [
        ⟨[openBrace, .rule starNamedRow, closeBrace],
          makeFrom fun nodes => .set ((itemsAt nodes 1).map expressionOf)⟩] }
  | dictionary => {
      alternatives := [
        ⟨[openBrace, .option (.rule pairs), closeBrace], makeFrom fun nodes =>
          .dictionary ((itemsAt nodes 1).filterMap fun node =>
            match node with
            | .entry key content => some (key, content)
            | _ => none)⟩,
        giving 1 [openBrace, .rule wrongPairs, closeBrace]] }
  | pairs => { alternatives := [giving 0 [.row (.rule pair), .option (.sign ",")]] }
  | pair => {
      alternatives := [
        ⟨[.sign "**", .rule bitOr],
          fun nodes => .ok (some (.entry none (expressionAt nodes 1)))⟩,
        only (.rule entry)] }
  | entry => {
      alternatives := [
        ⟨[.rule expression, .sign ":", .rule expression], fun nodes =>
          .ok (some (.entry (some (expressionAt nodes 0)) (expressionAt nodes 2)))⟩] }
  | generator => {
      alternatives := [
        ⟨[.sign "(", .rule argumentExpression, .rule forClauses, .sign ")"], make .generator⟩,
        only (.mistake wrongBuilder)] }
  | setBuilder => {
      alternatives := [
        ⟨[openBrace, .rule named, .rule forClauses, closeBrace], make .setBuilder⟩,
        only (.mistake wrongBuilder)] }
  | dictionaryBuilder => {
      alternatives := [
        ⟨[openBrace, .rule entry, .rule forClauses, closeBrace], make .dictionaryBuilder⟩,
        only (.mistake wrongDictionaryBuilder)] }
  | forClauses => { alternatives := [only (.some (.rule forClause))] }
  | forClause => {
      alternatives := [
        giving 0 (.word "async" :: loopPhrases),
        giving 0 loopPhrases,
        only (.mistake wrongForTarget)] }
  | arguments => {
      alternatives := [
        giving 0 [.rule argumentList, .option (.sign ","), .ahead (.sign ")")],
        only (.mistake wrongArguments)]
      isLasting := true }
  | argumentList => {
      alternatives := [
        ⟨[.row (.oneOf [.rule starred, notBefore "=" argumentExpression]),
            .option (.sequence [.sign ",", .rule namedArguments])],
          fun nodes => .ok (some (.arguments (
            (itemsAt nodes 0).map (fun _ => ArgumentKind.positional) ++
              argumentsOf ((itemsAt nodes 1)[1]?.getD .nothing))))⟩,
        only (.rule namedArguments)] }
  | namedArguments => {
      alternatives := [
        ⟨[.row (.rule namedOrStarred), .sign ",", .row (.rule namedOrSpread)], makeArguments⟩,
        ⟨[.row (.rule namedOrStarred)], makeArguments⟩,
        ⟨[.row (.rule namedOrSpread)], makeArguments⟩] }
  | namedOrStarred => {
      alternatives := [
        only (.mistake wrongNamedArgument),
        ⟨[.name, .sign "=", .rule expression], fun _ => .ok (some (.arguments [.named]))⟩,
        only (.rule starred)] }
  | namedOrSpread => {
      alternatives := [
        only (.mistake wrongNamedArgument),
        ⟨[.name, .sign "=", .rule expression], fun _ => .ok (some (.arguments [.named]))⟩,
        ⟨[.sign "**", .rule expression], fun _ => .ok (some (.arguments [.spread]))⟩] }
  | starred => {
      alternatives := [
        ⟨[.sign "*", .rule expression], makeFrom fun nodes => .starred (expressionAt nodes 1)⟩,
        ⟨[.sign "*"], raise .loneStar⟩] }
  | function => {
      alternatives := [
        ⟨[.word "lambda", .option (.rule parameters), .sign ":", .rule expression],
          make .function⟩] }
  | parameters => {
      alternatives := [only (.mistake wrongParameters), only (.rule parameterList)] }
  | parameterList => {
      alternatives := [
        giving 0 [.rule slashWithoutDefault, .many (.rule parameterWithoutDefault),
          .many (.rule parameterWithDefault), .option (.rule parameterStar)],
        giving 0 [.rule slashWithDefault, .many (.rule parameterWithDefault),
          .option (.rule parameterStar)],
        giving 0 [.some (.rule parameterWithoutDefault), .many (.rule parameterWithDefault),
          .option (.rule parameterStar)],
        giving 0 [.some (.rule parameterWithDefault), .option (.rule parameterStar)],
        only (.rule parameterStar)] }
  | slashWithoutDefault => {
      alternatives := parameterForms [.some (.rule parameterWithoutDefault), .sign "/"] }
  | slashWithDefault => {
      alternatives := parameterForms [.many (.rule parameterWithoutDefault),
        .some (.rule parameterWithDefault), .sign "/"] }
  | parameterStar => {
      alternatives := [
        only (.mistake wrongParameterStar),
        giving 0 [.sign "*", .rule parameterWithoutDefault, .many (.rule anyParameter),
          .option (.rule parameterPairs)],
        giving 0 [.sign "*", .sign ",", .some (.rule anyParameter), .option (.rule parameterPairs)],
        only (.rule parameterPairs)] }
  | parameterPairs => {
      alternatives := [
        only (.mistake wrongParameterPairs),
        giving 0 [.sign "**", .rule parameterWithoutDefault]] }
  | parameterWithoutDefault => { alternatives := parameterForms [.name] }
  | parameterWithDefault => { alternatives := parameterForms [.name, .rule defaultValue] }
  | anyParameter => { alternatives := parameterForms [.name, .option (.rule defaultValue)] }
  | defaultValue => {
      alternatives := [giving 0 [.sign "=", .rule expression], only (.mistake wrongDefault)] }
  | targets => {
      alternatives := [
        giving 0 [.rule target, .absent (.sign ",")],
        giving 0 [.rule target, .many (.sequence [.sign ",", .rule target]), .option (.sign ",")]] }
  | target => {
      alternatives := [
        giving 1 [.sign "*", .absent (.sign "*"), .rule target], only (.rule starTarget)]
      isLasting := true }
  | starTarget => {
      alternatives := [
        giving 0 [.rule targetPrimary, .sign ".", .name, .absent goesOn], only (.rule targetAtom)]
      isLasting := true }
  | targetAtom => {
      alternatives := [
        only .name,
        giving 1 [.sign "(", .rule starTarget, .sign ")"],
        giving 0 [.sign "(", .option (.rule targetTuple), .sign ")"]] }
  | targetTuple => {
      alternatives := [
        giving 0 [.rule target, .some (.sequence [.sign ",", .rule target]), .option (.sign ",")],
        giving 0 [.rule target, .sign ","]] }
  | targetPrimary => {
      alternatives := [giving 0 [.rule atom, .ahead goesOn]]
      continuations := [
        giving 0 [.sign ".", .name, .ahead goesOn],
        giving 0 [.rule generator, .ahead goesOn],
        giving 0 [.sign "(", .option (.rule arguments), .sign ")", .ahead goesOn]]
      isLasting := true }
  | wrongExpression => {
      alternatives := [
        ⟨[.absent (.oneOf [.sequence [.name, .string], .softWord]), .rule disjunction,
            .rule plainExpression, .bracketed],
          raiseFrom fun nodes =>
            if (statement? (expressionAt nodes 0)).isSome then none else some .missingComma⟩,
        ⟨[.rule disjunction, .word "if", .rule disjunction,
            .absent (.oneOf [.word "else", .sign ":"])], raise .missingElse⟩] }
  | wrongStatement => {
      alternatives := [
        ⟨[.name, .absent (.sign "("), .rule starExpressions], raiseFrom fun nodes =>
          (statement? (expressionAt nodes 0)).map .missingParentheses⟩] }
  | wrongNamed => {
      alternatives := [
        ⟨[.rule expression, .sign ":=", .rule expression], raiseAbout .namedTarget 0⟩,
        ⟨[.name, .sign "=", .rule bitOr, .absent anyEquals], raise .equalsSign⟩,
        ⟨[.absent (.oneOf [.rule tuple, .rule generator, .word "True", .word "None",
            .word "False"]), .rule bitOr, .sign "=", .rule bitOr, .absent anyEquals],
          raiseAbout .assignment 0⟩]
      isLasting := true }
  | wrongGroup => {
      alternatives := [
        ⟨[.sign "(", .rule starred, .sign ")"], raise .star⟩,
        ⟨[.sign "(", .sign "**", .rule expression, .sign ")"], raise .doubleStar⟩] }
  | wrongBuilder => {
      alternatives := [
        ⟨[.oneOf [.sign "(", openBrace], .rule starred, .rule forClauses],
          raise .comprehensionStar⟩,
        ⟨[openBrace, .rule starNamed, .sign ",", .rule starNamedRow, .rule forClauses],
          raise .comprehensionTarget⟩,
        ⟨[openBrace, .rule starNamed, .sign ",", .rule forClauses], raise .comprehensionTarget⟩] }
  | wrongDictionaryBuilder => {
      alternatives := [
        ⟨[openBrace, .sign "**", .rule bitOr, .rule forClauses, closeBrace],
          raise .comprehensionPairs⟩] }
  | wrongPairs => {
      alternatives := [
        giving 0 [.row (.rule pair), .sign ",", .rule wrongEntry],
        ⟨[.rule expression, .sign ":", .sign "*", .rule bitOr], raise .starValue⟩,
        ⟨[.rule expression, .sign ":", .ahead (.oneOf [closeBrace, .sign ","])],
          raise .missingValue⟩] }
  | wrongEntry => {
      alternatives := [
        ⟨[.rule expression, .absent (.sign ":")], raise .missingColon⟩,
        ⟨[.rule expression, .sign ":", .sign "*", .rule bitOr], raise .starValue⟩,
        ⟨[.rule expression, .sign ":", .ahead (.oneOf [closeBrace, .sign ","])],
          raise .missingValue⟩] }
  | wrongForTarget => {
      alternatives := [
        ⟨[.option (.word "async"), .word "for", .rule starExpressions], raiseFrom fun nodes =>
          (expressionAt nodes 2).fixedPart?.map fun part => .fixedTarget part.describe⟩] }
  | wrongArguments => {
      alternatives := [
        ⟨[.rule argumentList, .sign ",", .sign "*"], raise .starBehindPairs⟩,
        ⟨[.rule expression, .rule forClauses, .sign ",",
            .option (.oneOf [.rule argumentList, .sequence [.rule expression, .rule forClauses]])],
          raise .bareGenerator⟩,
        ⟨[.name, .sign "=", .rule expression, .rule forClauses], raise .equalsSign⟩,
        ⟨[.rule argumentList, .rule forClauses], raiseFrom fun nodes =>
          if (argumentsOf (nodes[0]?.getD .nothing)).count .positional ≤ 1 then none
          else some .bareGenerator⟩,
        ⟨[.rule argumentList, .sign ",", .rule expression, .rule forClauses],
          raise .bareGenerator⟩,
        ⟨[.rule argumentList, .sign ",", .rule argumentList], raiseFrom fun nodes =>
          some (if (argumentsOf (nodes[0]?.getD .nothing)).contains .spread then .behindPairs
            else .behindNamed)⟩] }
  | wrongNamedArgument => {
      alternatives := [
        ⟨[.oneOf [.word "True", .word "False", .word "None"], .sign "="], raiseFrom fun nodes =>
          match nodes with
          | .token (.name word) :: _ => some (.fixedTarget (String.ofList word))
          | _ => none⟩,
        ⟨[.name, .sign "=", .rule expression, .rule forClauses], raise .equalsSign⟩,
        ⟨[.absent (.sequence [.name, .sign "="]), .rule expression, .sign "="],
          raise .argumentAssignment⟩] }
  | wrongParameters => {
      alternatives := [
        ⟨[.many (.rule parameterWithoutDefault),
            .oneOf [.rule slashWithDefault, .some (.rule parameterWithDefault)],
            .rule parameterWithoutDefault], raise (.parameters .order)⟩,
        ⟨[.many (.rule parameterWithoutDefault), .sign "(", .row .name, .option (.sign ","),
            .sign ")"], raise (.parameters .parentheses)⟩,
        ⟨[.sign "/", .sign ","], raise (.parameters .slashFirst)⟩,
        ⟨[anySlash, .many (.rule anyParameter), .sign "/"], raise (.parameters .slashTwice)⟩,
        ⟨[.option anySlash, .many (.rule anyParameter), .sign "*",
            .oneOf [.sign ",", .rule parameterWithoutDefault], .many (.rule anyParameter),
            .sign "/"], raise (.parameters .slashBehindStar)⟩,
        ⟨[.some (.rule anyParameter), .sign "/", .sign "*"], raise (.parameters .slashWithStar)⟩] }
  | wrongParameterStar => {
      alternatives := [
        ⟨[.sign "*", .oneOf [.sign ":",
            .sequence [.sign ",", .oneOf [.sign ":", .sign "**"]]]],
          raise (.parameters .bareStar)⟩,
        ⟨[.sign "*", .name, .sign "="], raise (.parameters .starDefault)⟩,
        ⟨[.sign "*", .oneOf [.rule parameterWithoutDefault, .sign ","], .many (.rule anyParameter),
            .sign "*", .oneOf [.rule parameterWithoutDefault, .sign ","]],
          raise (.parameters .starTwice)⟩] }
  | wrongParameterPairs => {
      alternatives := [
        ⟨[.sign "**", .name, .sign "="], raise (.parameters .pairsDefault)⟩,
        ⟨[.sign "**", .name, .sign ",", .name], raise (.parameters .behindPairs)⟩,
        ⟨[.sign "**", .name, .sign ",", .oneOf [.sign "*", .sign "**", .sign "/"]],
          raise (.parameters .behindPairs)⟩] }
  | wrongDefault => {
      alternatives := [
        ⟨[.sign "=", .ahead (.oneOf [.sign ")", .sign ","])], raise (.parameters .noDefault)⟩] }

/-- The grammar of expressions. -/
def grammar (reader : Literal.InnerReader) : Grammar Rule := ⟨define reader, Rule.ctorIdx⟩

end Rule

end OrderOfGrowth.Terminal
