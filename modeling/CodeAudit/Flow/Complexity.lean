import CodeAudit.Flow.Basic

/-!
Cyclomatic complexity: one for the way straight through and one for each decision point. The numbers have no bound. As
long as the complexity is below `2 ^ 64` it is also what words of 64 bits give.
-/
namespace CodeAudit

/-- What a node adds by itself. A chain of operands can be left behind each but the last. -/
def Shape.decisionPoints : Shape → Nat
  | .conditional | .loop => 1
  | .boolean operands => operands - 1
  | .exceptions handlers cleanups => handlers + cleanups
  | .other => 0

namespace Flow

mutual

def decisionPoints : Flow → Nat
  | node s cs => s.decisionPoints + decisionPointsOf cs

def decisionPointsOf : List Flow → Nat
  | [] => 0
  | t :: ts => decisionPoints t + decisionPointsOf ts

end

def complexity (t : Flow) : Nat :=
  1 + t.decisionPoints

example : complexity (.node .other []) = 1 := by decide

example : complexity (.node .other [.node .loop [.node (.boolean 3) []], .node (.exceptions 2 1) []]) = 7 := by
  decide

end Flow

end CodeAudit
