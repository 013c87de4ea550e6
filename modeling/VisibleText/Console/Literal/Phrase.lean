import VisibleText.Console.Literal.Grammar

/-!
# The grammar of expressions

The phrases that expressions are made of, and how each is read. The phrases come in the
order in which operators bind, from those that bind least; behind them stand arguments,
parameters, targets of loops, and the phrases that only look for what is wrong.
-/

set_option autoImplicit false

namespace VisibleText.Console.Literal

/-- The call of what comes first with the arguments behind it. -/
def called : List Expression → Form
  | f :: arguments => .call f arguments
  | [] => .operation

/-! ## What is wrong with what was read -/

/-- A fault that is told by the start of the part with an index. -/
def Outcome.refusedAt (parts : List Part) (index : Nat) (fault : GrammarFault) : Outcome :=
  .refused fault (.start ((parts[index]?.map Part.first).getD 0))

/-- The names that were commands once. -/
def commandNames : List Text := ["print", "exec"].map text

/-- A name that was a command once, of which a value may follow. -/
def commandName? (part : Part) : Option Text :=
  match part.made with
  | [.of _ _ (.name t)] => if commandNames.contains t then some t else none
  | _ => none

/-- Two values stand next to each other: between brackets a comma is missing. -/
def commaMissing (depth : Nat) (parts : List Part) : Outcome :=
  match parts with
  | [_, first, _] =>
    if (commandName? first).isSome || depth = 0 then .nothing
    else .refusedAt parts 1 .forgottenComma
  | _ => .nothing

/-- A name stands before a value: it may have been a command once. -/
def commandFault (_ : Nat) (parts : List Part) : Outcome :=
  match parts.head?.bind commandName? with
  | some t => .refusedAt parts 0 (.missingParentheses t)
  | none => .nothing

/-- What stands behind the word that starts a loop is no target of it. -/
def targetFault (_ : Nat) (parts : List Part) : Outcome :=
  match Expression.nonTargetAmong? (parts.flatMap Part.made) with
  | some e => .refused (.assigned e.kind) (.start e.span.first)
  | none => .nothing

/-- A generator stands behind other arguments. -/
def generatorFault (_ : Nat) (parts : List Part) : Outcome :=
  match parts with
  | arguments :: _ =>
    let placed := arguments.made.filter Expression.isPlaced
    match placed.getLast? with
    | some e =>
      if 1 < placed.length then .refused .bareGenerator (.start e.span.first) else .nothing
    | none => .nothing
  | [] => .nothing

/-- An argument stands behind ones with names. -/
def orderFault (_ : Nat) (parts : List Part) : Outcome :=
  match parts with
  | arguments :: _ =>
    let fault := if arguments.made.any Expression.isUnpacked then .argumentBehindTable
      else .argumentBehindNamed
    .refused fault .latest
  | [] => .nothing

/-! ## Phrases -/

/-- A phrase of expressions. -/
inductive Phrase where
  | word (kind : WordKind)
  /-- a whole text -/
  | whole
  | expressions | moreExpressions
  | expression
  | yielded
  | starExpressions | moreStarExpressions
  | starExpression
  | starNamedExpressions
  | starNamedExpression
  | assignment
  | namedExpression
  | disjunction | moreDisjuncts
  | conjunction | moreConjuncts
  | inversion
  | comparison
  | compared | equalTo | unequalTo | unequalSign | atMost | lessThan | atLeast | greaterThan
  | notMember | member | notIdentical | identical
  | bitOr | bitXor | bitAnd | shift | sum | term
  | factor
  | power
  | awaited
  | primary
  | atom | bracketed | braced
  | group | groupInner
  | texts
  | tuple | tupleInner
  | set
  | table
  | entries | entry | pair
  -- comprehensions
  | clauses | clause | condition
  | setComprehension
  | generator | generatorInner
  | tableComprehension
  -- arguments
  | arguments
  | placedAndNamed | placedArgument | placedInner | moreNamed
  | namedArguments | namedOrStarred | namedOrUnpacked
  | starredArgument
  -- parameters
  | lambda
  | parameterList | parameters
  | plainBeforeSlash | defaultsBeforeSlash
  | starParameters | unpackedParameter
  | plainParameter | defaultParameter | anyParameter | parameter
  | default
  -- targets
  | targets | moreTargets
  | target | innerTarget
  | placedTarget
  | simpleTarget | targetTuple
  | targetPrimary
  | targetGoesOn
  -- what is wrong
  | wrongExpression | quietExpression | softOrPrefixed | elseOrColon
  | wrongCommand
  | wrongNamed | unassignable | assigns
  | wrongGroup
  | wrongEntries | wrongEntry | braceOrComma
  | wrongTarget
  | wrongComprehension | anyOpening | setOpening
  | wrongTableComprehension
  | wrongArguments | argumentsToNamed | placedThenNamed | unassignedStar
  | anyArguments | generatorArgument
  | wrongNamedArgument | constantName | nameBeforeEquals
  | wrongDefault | closingOrComma
  | wrongParameters | defaultsAhead | slashParameters | commaOrPlain
  | wrongStarParameters | bareStarEnd | bareStarCommaEnd | bareStarBehindComma
  | wrongUnpackedParameter | starOrSlash
deriving DecidableEq

namespace Phrase

/-- A mark is a phrase. -/
instance : Coe String Phrase := ⟨fun s => .word (.mark s)⟩

/-- A name. -/
abbrev name : Phrase := .word .name

/-! ## Writing choices -/

/-- A phrase that is needed. -/
abbrev the (p : Phrase) : Item Phrase := .one p

/-- A phrase that may be absent. -/
abbrev opt (p : Phrase) : Item Phrase := .optional p

/-- A choice that makes one expression of what it reads, as a function says. -/
def reads (items : List (Item Phrase)) (f : List Expression → Form) : Choice Phrase :=
  ⟨items, .one f, false⟩

/-- A choice that makes one expression. -/
def makes (items : List (Item Phrase)) (form : Form) : Choice Phrase := reads items fun _ => form

/-- A choice that makes one expression with another one in it. -/
def around (items : List (Item Phrase)) (f : Expression → Form) : Choice Phrase :=
  reads items fun es => (es.head?.map f).getD .operation

/-- A choice that keeps what it reads. -/
def keeps (items : List (Item Phrase)) : Choice Phrase := ⟨items, .same, false⟩

/-- A choice that makes nothing of what it reads. -/
def skips (items : List (Item Phrase)) : Choice Phrase := ⟨items, .nothing, false⟩

/-- A choice of another phrase, whatever that one makes. -/
def is (p : Phrase) : Choice Phrase := keeps [.one p]

/-- A choice that is judged by what it reads. -/
def judged (items : List (Item Phrase)) (f : Nat → List Part → Outcome) : Choice Phrase :=
  ⟨items, .judge f, false⟩

/-- A choice that a fault says what is wrong with. It is told by the item with an index. -/
def wrong (index : Nat) (items : List (Item Phrase)) (fault : GrammarFault) : Choice Phrase :=
  judged items fun _ parts => .refusedAt parts index fault

/-- A choice that a fault says what is wrong with, by what the item with an index is. -/
def wrongKind (index : Nat) (items : List (Item Phrase)) (fault : String → GrammarFault) :
    Choice Phrase :=
  judged items fun _ parts =>
    let e? := parts[index]?.bind fun part => part.made.head?
    .refusedAt parts index (fault ((e?.map Expression.kind).getD ""))

/-- A choice that a fault says what is wrong with. It is told by the last word. -/
def wrongSoFar (items : List (Item Phrase)) (fault : GrammarFault) : Choice Phrase :=
  judged items fun _ _ => .refused fault .latest

/-- A choice of an expression that something is missing behind, as a fault says. -/
def wrongBehind (items : List (Item Phrase)) (fault : GrammarFault) : Choice Phrase :=
  judged items fun _ parts =>
    let e? := parts.head?.bind fun part => part.made.head?
    .refused fault (.finish ((e?.map (·.span.behind)).getD 0))

/-- A choice of a phrase that only looks for what is wrong. -/
def checks (p : Phrase) : Choice Phrase := ⟨[.one p], .same, true⟩

/-- A phrase that is read from its choices. -/
abbrev plain (choices : List (Choice Phrase)) : Rule Phrase := .choices .plain choices

/-- A phrase that is read once at each place. -/
abbrev kept (choices : List (Choice Phrase)) : Rule Phrase := .choices .kept choices

/-- A phrase that may start with itself. -/
abbrev growing (choices : List (Choice Phrase)) : Rule Phrase := .choices .growing choices

/-- An operator of two values, which are read by two phrases. -/
def operator (first : Phrase) (sign : String) (second : Phrase) : Choice Phrase :=
  makes [the first, the sign, the second] .operation

/-- The sum or the difference of two values. -/
def added (sign : String) : Choice Phrase :=
  reads [the .sum, the sign, the .term] fun
    | [first, second] => .sum first second
    | _ => .operation

/-- A value behind a plus or a minus sign. -/
def behindSign (sign : String) : Choice Phrase :=
  around [the sign, the .factor] .signed

/-- What a value is compared with. -/
def comparedBy (signs : List (Item Phrase)) : Rule Phrase :=
  plain [makes (signs ++ [the .bitOr]) (.comparison false)]

/-! ## The rules -/

/-- How a phrase is read. -/
def rule : Phrase → Rule Phrase
  | word kind => .word kind
  | whole => plain [keeps [the .expressions, .many (.word .lineEnd), the (.word .finish)]]
  | expressions => plain [
      reads [the .expression, .some .moreExpressions, opt ","] .tuple,
      reads [the .expression, the ","] .tuple,
      is .expression]
  | moreExpressions => plain [keeps [the ",", the .expression]]
  | expression => kept [
      checks .wrongExpression,
      checks .wrongCommand,
      makes [the .disjunction, the "if", the .disjunction, the "else", the .expression]
        .conditional,
      is .disjunction,
      is .lambda]
  | yielded => plain [
      makes [the "yield", the "from", the .expression] .yielded,
      makes [the "yield", opt .starExpressions] .yielded]
  | starExpressions => plain [
      reads [the .starExpression, .some .moreStarExpressions, opt ","] .tuple,
      reads [the .starExpression, the ","] .tuple,
      is .starExpression]
  | moreStarExpressions => plain [keeps [the ",", the .starExpression]]
  | starExpression => kept [
      around [the "*", the .bitOr] .starred,
      is .expression]
  | starNamedExpressions => plain [keeps [.listed .starNamedExpression, opt ","]]
  | starNamedExpression => plain [
      around [the "*", the .bitOr] .starred,
      is .namedExpression]
  | assignment => plain [makes [the name, the ":=", .commit, the .expression] .assignment]
  | namedExpression => plain [
      is .assignment,
      checks .wrongNamed,
      keeps [the .expression, .notAhead ":="]]
  | disjunction => kept [
      makes [the .conjunction, .some .moreDisjuncts] .operation,
      is .conjunction]
  | moreDisjuncts => plain [keeps [the "or", the .conjunction]]
  | conjunction => kept [
      makes [the .inversion, .some .moreConjuncts] .operation,
      is .inversion]
  | moreConjuncts => plain [keeps [the "and", the .inversion]]
  | inversion => kept [
      makes [the "not", the .inversion] .operation,
      is .comparison]
  | comparison => plain [
      reads [the .bitOr, .some .compared] fun
        | first :: .of _ _ (.comparison byMembership) :: _ => .compared first byMembership
        | _ => .operation,
      is .bitOr]
  | compared => plain [
      is .equalTo, is .unequalTo, is .atMost, is .lessThan, is .atLeast, is .greaterThan,
      is .notMember, is .member, is .notIdentical, is .identical]
  | equalTo => comparedBy [the "=="]
  | unequalTo => comparedBy [the .unequalSign]
  | unequalSign => plain [skips [the "!="]]
  | atMost => comparedBy [the "<="]
  | lessThan => comparedBy [the "<"]
  | atLeast => comparedBy [the ">="]
  | greaterThan => comparedBy [the ">"]
  | notMember => comparedBy [the "not", the "in"]
  | member => plain [makes [the "in", the .bitOr] (.comparison true)]
  | notIdentical => comparedBy [the "is", the "not"]
  | identical => comparedBy [the "is"]
  | bitOr => growing [operator .bitOr "|" .bitXor, is .bitXor]
  | bitXor => growing [operator .bitXor "^" .bitAnd, is .bitAnd]
  | bitAnd => growing [operator .bitAnd "&" .shift, is .shift]
  | shift => growing [operator .shift "<<" .sum, operator .shift ">>" .sum, is .sum]
  | sum => growing [added "+", added "-", is .term]
  | term => growing [
      operator .term "*" .factor, operator .term "/" .factor, operator .term "//" .factor,
      operator .term "%" .factor, operator .term "@" .factor, is .factor]
  | factor => kept [
      behindSign "+", behindSign "-", makes [the "~", the .factor] .operation, is .power]
  | power => plain [operator .awaited "**" .factor, is .awaited]
  | awaited => kept [makes [the "await", the .primary] .awaited, is .primary]
  | primary => growing [
      makes [the .primary, the ".", the name] .component,
      reads [the .primary, the .generator] called,
      reads [the .primary, the "(", opt .arguments, the ")"] called,
      is .atom]
  | atom => plain [
      is name,
      makes [the "True"] (.constant "True"),
      makes [the "False"] (.constant "False"),
      makes [the "None"] (.constant "None"),
      keeps [.ahead (.word .quoted), the .texts],
      is (.word .number),
      keeps [.ahead "(", the .bracketed],
      keeps [.ahead "\x7b", the .braced],
      makes [the "..."] (.constant "ellipsis")]
  | bracketed => plain [is .tuple, is .group, is .generator]
  | braced => plain [is .table, is .set, is .tableComprehension, is .setComprehension]
  | group => plain [keeps [the "(", the .groupInner, the ")"], checks .wrongGroup]
  | groupInner => plain [is .yielded, is .namedExpression]
  | texts => kept [⟨[.some (.word .quoted)], .join, false⟩]
  | tuple => plain [reads [the "(", opt .tupleInner, the ")"] .tuple]
  | tupleInner => plain [keeps [the .starNamedExpression, the ",", opt .starNamedExpressions]]
  | set => plain [
      reads [the "\x7b", the .starNamedExpressions, the "\x7d"] .set]
  | table => plain [
      reads [the "\x7b", opt .entries, the "\x7d"] .table,
      keeps [the "\x7b", the .wrongEntries, the "\x7d"]]
  | entries => plain [keeps [.listed .entry, opt ","]]
  | entry => plain [makes [the "**", the .bitOr] .unpacked, is .pair]
  | pair => plain [
      reads [the .expression, the ":", the .expression] fun
        | [key, value] => .entry key value
        | _ => .operation]
  | clauses => plain [keeps [.some .clause]]
  | clause => plain [
      makes [the "async", the "for", the .targets, the "in", .commit, the .disjunction,
        .many .condition] .clause,
      makes [the "for", the .targets, the "in", .commit, the .disjunction, .many .condition]
        .clause,
      checks .wrongTarget]
  | condition => plain [keeps [the "if", the .disjunction]]
  | setComprehension => plain [
      makes [the "\x7b", the .namedExpression, the .clauses, the "\x7d"] .setComprehension,
      checks .wrongComprehension]
  | generator => plain [
      makes [the "(", the .generatorInner, the .clauses, the ")"] .generator,
      checks .wrongComprehension]
  | generatorInner => plain [is .assignment, keeps [the .expression, .notAhead ":="]]
  | tableComprehension => plain [
      makes [the "\x7b", the .pair, the .clauses, the "\x7d"] .tableComprehension,
      checks .wrongTableComprehension]
  | arguments => kept [
      keeps [the .placedAndNamed, opt ",", .ahead ")"],
      checks .wrongArguments]
  | placedAndNamed => plain [
      keeps [.listed .placedArgument, opt .moreNamed],
      is .namedArguments]
  | placedArgument => plain [is .starredArgument, keeps [the .placedInner, .notAhead "="]]
  | placedInner => plain [is .assignment, keeps [the .expression, .notAhead ":="]]
  | moreNamed => plain [keeps [the ",", the .namedArguments]]
  | namedArguments => plain [
      keeps [.listed .namedOrStarred, the ",", .listed .namedOrUnpacked],
      keeps [.listed .namedOrStarred],
      keeps [.listed .namedOrUnpacked]]
  | namedOrStarred => plain [
      checks .wrongNamedArgument,
      makes [the name, the "=", the .expression] .named,
      is .starredArgument]
  | namedOrUnpacked => plain [
      checks .wrongNamedArgument,
      makes [the name, the "=", the .expression] .named,
      makes [the "**", the .expression] .unpackedArgument]
  | starredArgument => plain [
      around [the "*", the .expression] .starred,
      wrongSoFar [the "*"] .bareStarArgument]
  | lambda => plain [
      makes [the "lambda", opt .parameterList, the ":", the .expression] .function]
  | parameterList => plain [checks .wrongParameters, is .parameters]
  | parameters => plain [
      keeps [the .plainBeforeSlash, .many .plainParameter, .many .defaultParameter,
        opt .starParameters],
      keeps [the .defaultsBeforeSlash, .many .defaultParameter, opt .starParameters],
      keeps [.some .plainParameter, .many .defaultParameter, opt .starParameters],
      keeps [.some .defaultParameter, opt .starParameters],
      is .starParameters]
  | plainBeforeSlash => plain [
      keeps [.some .plainParameter, the "/", the ","],
      keeps [.some .plainParameter, the "/", .ahead ":"]]
  | defaultsBeforeSlash => plain [
      keeps [.many .plainParameter, .some .defaultParameter, the "/", the ","],
      keeps [.many .plainParameter, .some .defaultParameter, the "/", .ahead ":"]]
  | starParameters => plain [
      checks .wrongStarParameters,
      keeps [the "*", the .plainParameter, .many .anyParameter, opt .unpackedParameter],
      keeps [the "*", the ",", .some .anyParameter, opt .unpackedParameter],
      is .unpackedParameter]
  | unpackedParameter => plain [
      checks .wrongUnpackedParameter,
      keeps [the "**", the .plainParameter]]
  | plainParameter => plain [
      keeps [the .parameter, the ","],
      keeps [the .parameter, .ahead ":"]]
  | defaultParameter => plain [
      keeps [the .parameter, the .default, the ","],
      keeps [the .parameter, the .default, .ahead ":"]]
  | anyParameter => plain [
      keeps [the .parameter, opt .default, the ","],
      keeps [the .parameter, opt .default, .ahead ":"]]
  | parameter => plain [is name]
  | default => plain [keeps [the "=", the .expression], checks .wrongDefault]
  | targets => plain [
      keeps [the .target, .notAhead ","],
      keeps [the .target, .many .moreTargets, opt ","]]
  | moreTargets => plain [keeps [the ",", the .target]]
  | target => kept [keeps [the "*", the .innerTarget], is .placedTarget]
  | innerTarget => plain [keeps [.notAhead "*", the .target]]
  | placedTarget => kept [
      keeps [the .targetPrimary, the ".", the name, .notAhead .targetGoesOn],
      is .simpleTarget]
  | simpleTarget => plain [
      is name,
      keeps [the "(", the .placedTarget, the ")"],
      keeps [the "(", opt .targetTuple, the ")"]]
  | targetTuple => plain [
      keeps [the .target, .some .moreTargets, opt ","],
      keeps [the .target, the ","]]
  | targetPrimary => growing [
      keeps [the .targetPrimary, the ".", the name, .ahead .targetGoesOn],
      keeps [the .targetPrimary, the .generator, .ahead .targetGoesOn],
      keeps [the .targetPrimary, the "(", opt .arguments, the ")", .ahead .targetGoesOn],
      keeps [the .atom, .ahead .targetGoesOn]]
  | targetGoesOn => plain [skips [the "("], skips [the "["], skips [the "."]]
  | wrongExpression => plain [
      judged [.notAhead .softOrPrefixed, the .disjunction, the .quietExpression] commaMissing,
      wrong 0 [the .disjunction, the "if", the .disjunction, .notAhead .elseOrColon]
        .elseExpected]
  | quietExpression => .choices .quiet [
      makes [the .disjunction, the "if", the .disjunction, the "else", the .expression]
        .conditional,
      is .disjunction,
      is .lambda]
  | softOrPrefixed => plain [
      skips [the name, the (.word .quoted)],
      skips [the (.word .softName)]]
  | elseOrColon => plain [skips [the "else"], skips [the ":"]]
  | wrongCommand => plain [
      judged [the name, .notAhead "(", the .starExpressions] commandFault]
  | wrongNamed => kept [
      wrongKind 0 [the .expression, the ":=", the .expression] .namedValue,
      wrong 0 [the name, the "=", the .bitOr, .notAhead .assigns] .equalsSign,
      wrongKind 1 [.notAhead .unassignable, the .bitOr, the "=", the .bitOr, .notAhead .assigns]
        .assignedHere]
  | unassignable => plain [
      is .tuple, is .generator, skips [the "True"], skips [the "None"], skips [the "False"]]
  | assigns => plain [skips [the "="], skips [the ":="]]
  | wrongGroup => plain [
      wrong 1 [the "(", the .starredArgument, the ")"] .starInGroup,
      wrong 1 [the "(", the "**", the .expression, the ")"] .doubleStarInGroup]
  | wrongEntries => plain [
      keeps [.listed .entry, the ",", the .wrongEntry],
      wrong 2 [the .expression, the ":", the "*", the .bitOr] .starAsValue,
      wrong 1 [the .expression, the ":", .ahead .braceOrComma] .keyWithoutValue]
  | wrongEntry => plain [
      wrongBehind [the .expression, .notAhead ":"] .keyWithoutColon,
      wrong 2 [the .expression, the ":", the "*", the .bitOr] .starAsValue,
      wrong 1 [the .expression, the ":", .ahead .braceOrComma] .keyWithoutValue]
  | braceOrComma => plain [skips [the "\x7d"], skips [the ","]]
  | wrongTarget => plain [judged [opt "async", the "for", the .starExpressions] targetFault]
  | wrongComprehension => plain [
      wrong 1 [the .anyOpening, the .starredArgument, the .clauses] .starInComprehension,
      wrong 1 [the .setOpening, the .starNamedExpression, the ",", the .starNamedExpressions,
        the .clauses] .bareTarget,
      wrong 1 [the .setOpening, the .starNamedExpression, the ",", the .clauses] .bareTarget]
  | anyOpening => plain [skips [the "["], skips [the "("], skips [the "\x7b"]]
  | setOpening => plain [skips [the "["], skips [the "\x7b"]]
  | wrongTableComprehension => plain [
      wrong 1 [the "\x7b", the "**", the .bitOr, the .clauses, the "\x7d"] .tableInComprehension]
  | wrongArguments => plain [
      wrong 1 [the .argumentsToNamed, the ",", .listed .unassignedStar] .starBehindTable,
      wrong 0 [the .expression, the .clauses, the ",", opt .anyArguments] .bareGenerator,
      wrong 0 [the name, the "=", the .expression, the .clauses] .equalsSign,
      judged [the .placedAndNamed, the .clauses] generatorFault,
      wrong 2 [the .placedAndNamed, the ",", the .expression, the .clauses] .bareGenerator,
      judged [the .placedAndNamed, the ",", the .placedAndNamed] orderFault]
  | argumentsToNamed => plain [is .placedThenNamed, is .namedArguments]
  | placedThenNamed => plain [keeps [.listed .placedArgument, the ",", the .namedArguments]]
  | unassignedStar => plain [keeps [the .starredArgument, .notAhead "="]]
  | anyArguments => plain [is .placedAndNamed, is .generatorArgument]
  | generatorArgument => plain [keeps [the .expression, the .clauses]]
  | wrongNamedArgument => plain [
      wrongKind 0 [the .constantName, the "="] .assigned,
      wrong 0 [the name, the "=", the .expression, the .clauses] .equalsSign,
      wrong 1 [.notAhead .nameBeforeEquals, the .expression, the "="] .argumentAssigned]
  | constantName => plain [
      makes [the "True"] (.constant "True"),
      makes [the "False"] (.constant "False"),
      makes [the "None"] (.constant "None")]
  | nameBeforeEquals => plain [skips [the name, the "="]]
  | wrongDefault => plain [wrong 0 [the "=", .ahead .closingOrComma] .defaultExpected]
  | closingOrComma => plain [skips [the ")"], skips [the ","]]
  | wrongParameters => plain [
      wrong 2 [.many .plainParameter, the .defaultsAhead, the .plainParameter]
        .parameterBehindDefault,
      wrong 1 [.many .plainParameter, the "(", .listed .parameter, opt ",", the ")"]
        .parametersInGroup,
      wrong 0 [the "/", the ","] .nothingBeforeSlash,
      wrong 2 [the .slashParameters, .many .anyParameter, the "/"] .secondSlash,
      wrong 5 [opt .slashParameters, .many .anyParameter, the "*", the .commaOrPlain,
        .many .anyParameter, the "/"] .slashBehindStar,
      wrong 2 [.some .anyParameter, the "/", the "*"] .starBehindSlash]
  | defaultsAhead => plain [is .defaultsBeforeSlash, keeps [.some .defaultParameter]]
  | slashParameters => plain [is .plainBeforeSlash, is .defaultsBeforeSlash]
  | commaOrPlain => plain [skips [the ","], is .plainParameter]
  | wrongStarParameters => plain [
      wrongSoFar [the "*", the .bareStarEnd] .bareStar,
      wrong 2 [the "*", the .parameter, the "="] .starWithDefault,
      wrong 3 [the "*", the .commaOrPlain, .many .anyParameter, the "*", the .commaOrPlain]
        .secondStar]
  | bareStarEnd => plain [skips [the ":"], is .bareStarCommaEnd]
  | bareStarCommaEnd => plain [skips [the ",", the .bareStarBehindComma]]
  | bareStarBehindComma => plain [skips [the ":"], skips [the "**"]]
  | wrongUnpackedParameter => plain [
      wrong 2 [the "**", the .parameter, the "="] .doubleStarWithDefault,
      wrong 3 [the "**", the .parameter, the ",", the .parameter] .parameterBehindDoubleStar,
      wrong 3 [the "**", the .parameter, the ",", the .starOrSlash] .parameterBehindDoubleStar]
  | starOrSlash => plain [skips [the "*"], skips [the "**"], skips [the "/"]]

end Phrase

/-- The grammar of expressions. -/
def grammar : Grammar Phrase := ⟨Phrase.rule, ","⟩

end VisibleText.Console.Literal
