import CodeAudit.Syntax.Grammar.Statements
import CodeAudit.Syntax.Grammar.Compound
import CodeAudit.Syntax.Grammar.Patterns
import CodeAudit.Syntax.Grammar.Expressions
import CodeAudit.Syntax.Grammar.Repetitions

/-!
The grammar of Python source. `Production.fits` says whether a production can have given children; it is the test
that every node of a syntax tree has passed.
-/
namespace CodeAudit.Syntax

namespace Grammar

/-- All reductions; the automaton refers to them by their place in this list. -/
def reductions : List Reduction :=
  statements ++ compound ++ patterns ++ expressions ++ repetitions

end Grammar

namespace Kind

/-- A node of a hidden kind that would have one child only may be left out: the kinds of such a child. -/
def soleChildren : Kind → List Kind
  | .statement => [.simpleStatements, .ifStatement, .matchStatement, .forStatement, .whileStatement,
      .tryStatement, .withStatement, .functionDefinition, .classDefinition, .decoratedDefinition]
  | .namedExpressionTarget => [.identifier]
  | .simplePattern => [.underscore, .integerLiteral, .floatLiteral, .trueLiteral, .falseLiteral,
      .noneLiteral, .dottedName, .unionPattern, .caseListPattern, .caseTuplePattern, .dictPattern,
      .splatPattern, .classPattern, .complexPattern, .concatenatedString, .stringLiteral]
  | .parameterList => [.parameter]
  | .patternSequence => [.pattern]
  | .iterableExpression => [.expression, .iterableLambda]
  | .rightHandSide => [.expressionList, .expression, .assignment, .augmentedAssignment,
      .patternList, .yieldExpression]
  | .comprehensionClauses => [.forInClause]
  | .collectionElements => [.listSplat, .parenthesizedListSplat, .expression, .yieldExpression]
  | .interpolatedExpression => [.expressionList, .expression, .patternList, .yieldExpression]
  | .statements => [.statement]
  | .importDots => [.dot]
  | .exceptClauses => [.exceptClause]
  | .exceptGroupClauses => [.exceptGroupClause]
  | .decorators => [.decorator]
  | .moreComprehensionClauses => [.forInClause, .ifClause]
  | .moreStrings => [.stringLiteral]
  | .stringParts => [.stringContent, .interpolation]
  | .contentParts => [.escapeSequence, .loneBackslash, .stringText, .escapeInterpolation]
  | .formatParts => [.formatText]
  | _ => []

/-- Whether a node of kind `k` may stand where one of kind `place` is asked for. -/
def standsFor (k place : Kind) : Bool :=
  k = place || place.soleChildren.any fun inner => k = inner || inner.soleChildren.contains k

end Kind

namespace Production

/-- Whether children of the given kinds fill the places of the production. -/
def fits (p : Production) (kinds : List Kind) : Bool :=
  go p.places kinds
where
  go : List Place → List Kind → Bool
    | [], [] => true
    | place :: places, k :: kinds => place.kinds.any k.standsFor && go places kinds
    | _, _ => false

end Production

/-- The production of a reduction that fits the children. -/
def Reduction.choose? (r : Reduction) (kinds : List Kind) : Option Production :=
  r.find? (·.fits kinds)

end CodeAudit.Syntax
