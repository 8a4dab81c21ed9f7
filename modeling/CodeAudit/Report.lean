import CodeAudit.Flow.Nesting
import CodeAudit.Pattern.OfLine
import CodeAudit.Thresholds

/-!
Findings in one function: patterns of its lines together with those of its flow of control.
-/
namespace CodeAudit

/-- The patterns found, the length of the longest chain of decisions within each other, and the number of all
decisions. -/
structure Report where
  patterns : PatternSet
  maxNestingDepth : Nat
  conditionalDepth : Nat
deriving DecidableEq

/-- The patterns that show in the nesting of a function. -/
def Flow.Nesting.patterns (limits : Thresholds) (n : Flow.Nesting) : List Pattern :=
  (if limits.maxNestingDepth < n.deepest then [.deepNesting] else []) ++
    if limits.maxConditionals < n.decisions then [.complexConditionals] else []

namespace Report

/-- The findings in a flow of control and in lines. -/
def of (limits : Thresholds) (flow : Flow) (lines : List (List Char)) : Report :=
  let nesting := flow.nesting 0
  { patterns := .ofList (lines.filterMap (Pattern.ofLine? limits.maxLineLength) ++ nesting.patterns limits)
    maxNestingDepth := nesting.deepest
    conditionalDepth := nesting.decisions }

/-- Nothing was found. -/
def isClean (r : Report) : Bool :=
  r.patterns.isEmpty

/-- The names of the patterns in braces. -/
def patternSet (r : Report) : String :=
  "\x7b" ++ ", ".intercalate (r.patterns.toList.map Pattern.name) ++ "\x7d"

end Report

/-- What is measured in one function. -/
structure Analysis where
  complexity : Nat
  report : Report
deriving DecidableEq

end CodeAudit
