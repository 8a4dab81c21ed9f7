import CodeAudit.Proofs.Flow.Tally

/-! Cyclomatic complexity, read off the syntax: one more than the number of places at which the way can part. -/
namespace CodeAudit.Flow

open Syntax

/-- One for everything that parts the way. -/
def decisionTally : Tally := ⟨1, 1, 1⟩

/-- The kinds of syntax at which the way can part. -/
def decisionKinds : List Kind :=
  [.ifStatement, .elifClause, .forStatement, .whileStatement, .booleanOperator, .exceptClause, .exceptGroupClause,
    .finallyClause]

/-- The clauses that count as decisions by themselves. -/
def decisionClauses : List Kind :=
  [.elifClause, .exceptClause, .exceptGroupClause, .finallyClause]

mutual

theorem decisionPoints_eq_tally : ∀ t : Flow, t.decisionPoints = decisionTally.ofFlow t
  | .node s cs => by
    rw [decisionPoints, decisionPointsOf_eq_tally cs, Tally.ofFlow_node]
    cases s <;> simp [Shape.decisionPoints, Tally.ofShape, decisionTally]

theorem decisionPointsOf_eq_tally : ∀ ts : List Flow, decisionPointsOf ts = decisionTally.ofFlows ts
  | [] => by simp [decisionPointsOf]
  | t :: ts => by
    rw [decisionPointsOf, decisionPoints_eq_tally t, decisionPointsOf_eq_tally ts, Tally.ofFlows_cons]

end

/-- However decisions are nested and wherever comments stand, each of them adds one to the complexity. -/
theorem complexity_ofNode (t : Node) (grammatical : t.Grammatical decisionClauses) :
    (ofNode t).complexity = 1 + t.nodes.countP (·.kind ∈ decisionKinds) := by
  have minds : decisionTally.Minds decisionClauses := by
    intro k counted
    unfold Tally.ofClause Kind.statement? at counted
    split at counted <;> simp_all [decisionClauses]
  have one (k : Kind) : decisionTally.ofKind k = if k ∈ decisionKinds then 1 else 0 := by
    unfold Tally.ofKind
    split <;> simp_all [decisionTally, decisionKinds]
  rw [complexity, decisionPoints_eq_tally, ← Tally.ofSyntax_eq_ofFlow minds grammatical,
    Tally.ofSyntax_eq_countP one]

/-- A `try` statement around a loop and an `if` with `elif`, comments strewn in, and a chain of `and` within an
operation of `or`. -/
theorem complexity_of_mixed_decisions :
    let chain : Node := .mk { kind := .booleanOperator, field := some .left } [
      .mk { kind := .booleanOperator, field := some .left } [.mk { kind := .identifier, field := some .left } [],
        .mk { kind := .andWord, field := some .operator } [], .mk { kind := .identifier, field := some .right } []],
      .mk { kind := .comment } [], .mk { kind := .andWord, field := some .operator } [],
      .mk { kind := .identifier, field := some .right } []]
    let condition : Node := .mk { kind := .booleanOperator, field := some .condition } [chain,
      .mk { kind := .orWord, field := some .operator } [], .mk { kind := .lineContinuation } [],
      .mk { kind := .identifier, field := some .right } []]
    let statement : Node := .mk { kind := .ifStatement } [.mk { kind := .ifWord } [], condition,
      .mk { kind := .block } [.mk { kind := .whileStatement } []], .mk { kind := .comment } [],
      .mk { kind := .elifClause } [.mk { kind := .block } []], .mk { kind := .elifClause } [],
      .mk { kind := .elseClause } [.mk { kind := .forStatement } []]]
    let t : Node := .mk { kind := .moduleNode } [.mk { kind := .tryStatement } [.mk { kind := .block } [statement],
      .mk { kind := .exceptClause } [], .mk { kind := .comment } [], .mk { kind := .exceptClause } [],
      .mk { kind := .finallyClause } []]]
    t.Grammatical decisionClauses ∧ (ofNode t).complexity = 1 + t.nodes.countP (·.kind ∈ decisionKinds) ∧
      (ofNode t).complexity = 12 := by
  exact ⟨by decide, complexity_ofNode _ (by decide), by decide⟩

end CodeAudit.Flow
