import CodeAudit.Flow.Basic

/-!
How deep conditionals and loops lie within each other, and how many there are. Every child starts from the level of
its parent, so that siblings do not add up. The numbers have no bound. As long as the deepest level and the number of
decisions are below `2 ^ 64` they are also what words of 64 bits give.
-/
namespace CodeAudit.Flow

/-- The level reached by the deepest chain of decisions, and the number of decisions. -/
structure Nesting where
  deepest : Nat
  decisions : Nat
deriving DecidableEq

/-- Two parts side by side. -/
def Nesting.beside (a b : Nesting) : Nesting :=
  ⟨max a.deepest b.deepest, a.decisions + b.decisions⟩

mutual

/-- The nesting in a tree that lies `level` decisions deep. -/
def nesting (level : Nat) : Flow → Nesting
  | node s cs =>
    if s.isDecision then nestingOf (level + 1) ⟨level + 1, 1⟩ cs else nestingOf level ⟨level, 0⟩ cs

/-- The nesting in trees that lie `level` decisions deep, beside what has been found already. -/
def nestingOf (level : Nat) (found : Nesting) : List Flow → Nesting
  | [] => found
  | t :: ts => nestingOf level (found.beside (nesting level t)) ts

end

example : nesting 0 (.node .other [.node .conditional [.node .loop []], .node .conditional []]) = ⟨2, 3⟩ := by
  decide

example : nesting 0 (.node (.exceptions 1 0) [.node (.boolean 2) [.node .conditional []]]) = ⟨1, 1⟩ := by
  decide

end CodeAudit.Flow
