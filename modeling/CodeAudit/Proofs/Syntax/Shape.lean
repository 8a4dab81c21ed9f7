import CodeAudit.Flow.OfSyntax

/-! The nodes of a piece of syntax and what the grammar says about each of them: what is below it, where clauses
stand, and what a boolean operation consists of. Only what the flow of control depends on is said. -/
namespace CodeAudit.Syntax

/-- The statement that a kind of clause belongs to. The `else` part belongs to several. -/
def Kind.statement? : Kind → Option Kind
  | .elifClause => some .ifStatement
  | .exceptClause | .exceptGroupClause | .finallyClause => some .tryStatement
  | _ => none

namespace Node

@[simp] theorem label_mk (l : Label) (cs : List Node) : (mk l cs).label = l := rfl

@[simp] theorem children_mk (l : Label) (cs : List Node) : (mk l cs).children = cs := rfl

@[simp] theorem kind_mk (l : Label) (cs : List Node) : (mk l cs).kind = l.kind := rfl

mutual

/-- A node and every node below it, in the order of the text. -/
def nodes : Node → List Node
  | .mk l cs => .mk l cs :: nodesOf cs

def nodesOf : List Node → List Node
  | [] => []
  | n :: rest => nodes n ++ nodesOf rest

end

theorem nodesOf_eq (cs : List Node) : nodesOf cs = cs.flatMap nodes := by
  induction cs with
  | nil => rfl
  | cons n rest ih => simp [nodesOf, ih]

theorem nodes_mk (l : Label) (cs : List Node) : nodes (.mk l cs) = .mk l cs :: cs.flatMap nodes := by
  rw [nodes, nodesOf_eq]

theorem self_mem_nodes (n : Node) : n ∈ n.nodes := by
  cases n with
  | mk l cs => simp [nodes_mk]

theorem mem_nodes_of_child {l : Label} {cs : List Node} {c m : Node} (child : c ∈ cs) (below : m ∈ c.nodes) :
    m ∈ (Node.mk l cs).nodes := by
  rw [nodes_mk]
  exact .tail _ (List.mem_flatMap.mpr ⟨c, child, below⟩)

mutual

/-- What holds of a node as soon as it holds of its children holds of every node. -/
theorem induct {P : Node → Prop} (mk : ∀ l cs, (∀ c ∈ cs, P c) → P (.mk l cs)) : ∀ n : Node, P n
  | .mk l cs => mk l cs (inductOf mk cs)

theorem inductOf {P : Node → Prop} (mk : ∀ l cs, (∀ c ∈ cs, P c) → P (.mk l cs)) : ∀ cs : List Node, ∀ c ∈ cs, P c
  | [] => by simp
  | c :: rest => List.forall_mem_cons.mpr ⟨induct mk c, inductOf mk rest⟩

end

/-- Comments and tokens that are shown by their own text hold nothing. -/
def Bare (n : Node) : Prop :=
  Flow.counts n.kind = false → n.children = []

/-- A clause of the given kind stands in its statement only. -/
def Places (clause : Kind) (n : Node) : Prop :=
  ∀ c ∈ n.children, c.kind = clause → clause.statement? = some n.kind

/-- A conditional statement has at most one `else` part. -/
def OneElse (n : Node) : Prop :=
  n.kind = .ifStatement → n.children.countP (·.kind = .elseClause) ≤ 1

/-- The children of a boolean operation: each operand once, and besides them only tokens, comments and joined lines,
which hold nothing. -/
structure Operands (cs : List Node) : Prop where
  left : cs.countP (·.label.field = some .left) = 1
  right : cs.countP (·.label.field = some .right) = 1
  rest : ∀ c ∈ cs, c.label.field ≠ some .left → c.label.field ≠ some .right →
    c.children = [] ∧ (c.kind.isNamed → c.kind.isExtra)

instance (cs : List Node) : Decidable (Operands cs) :=
  decidable_of_iff
    (cs.countP (·.label.field = some .left) = 1 ∧ cs.countP (·.label.field = some .right) = 1 ∧
      ∀ c ∈ cs, c.label.field ≠ some .left → c.label.field ≠ some .right →
        c.children = [] ∧ (c.kind.isNamed → c.kind.isExtra))
    ⟨fun ⟨left, right, rest⟩ => ⟨left, right, rest⟩, fun ⟨left, right, rest⟩ => ⟨left, right, rest⟩⟩

/-- The one member with a property, brought to the front. -/
theorem perm_of_countP_eq_one {α : Type} {p : α → Bool} {xs : List α} (one : xs.countP p = 1) :
    ∃ x, xs.find? p = some x ∧ xs.Perm (x :: xs.filter (!p ·)) := by
  obtain ⟨x, only⟩ := List.length_eq_one_iff.mp (List.countP_eq_length_filter.symm.trans one)
  refine ⟨x, by rw [← List.head?_filter, only]; rfl, ?_⟩
  have split := List.filter_append_perm p xs
  rw [only] at split
  exact split.symm

/-- Both operands of a boolean operation, brought to the front of its children. -/
theorem Operands.sides {cs : List Node} (operands : Operands cs) :
    ∃ x y others, cs.find? (·.label.field = some .left) = some x ∧
      cs.find? (·.label.field = some .right) = some y ∧ cs.Perm (x :: y :: others) ∧
      ∀ c ∈ others, c.children = [] ∧ (c.kind.isNamed → c.kind.isExtra) := by
  -- The right operand is looked for among what is left without the left one.
  have apart : (fun c : Node => decide (c.label.field = some .right)) =
      fun c => decide (c.label.field = some .right) && !decide (c.label.field = some .left) := by
    funext c
    by_cases h : c.label.field = some .right <;> simp [h]
  obtain ⟨x, foundLeft, leftFirst⟩ := perm_of_countP_eq_one operands.left
  have rightOnce := operands.right
  rw [apart, ← List.countP_filter] at rightOnce
  obtain ⟨y, foundRight, rightFirst⟩ := perm_of_countP_eq_one rightOnce
  refine ⟨x, y, _, foundLeft, ?_, leftFirst.trans (rightFirst.cons x), ?_⟩
  · rw [List.find?_filter] at foundRight
    rw [← foundRight, apart]
    congr 1
    funext c
    simp [Bool.and_comm]
  · intro c member
    simp only [List.mem_filter, Bool.not_eq_true', decide_eq_false_iff_not] at member
    exact operands.rest c member.1.1 member.1.2 member.2

/-- What the grammar says about a single node, where the given kinds of clauses are minded. -/
structure Shaped (clauses : List Kind) (n : Node) : Prop where
  bare : n.Bare
  operands : n.kind = .booleanOperator → Operands n.children
  oneElse : n.OneElse
  places : ∀ k ∈ clauses, n.Places k

instance (clauses : List Kind) (n : Node) : Decidable (Shaped clauses n) :=
  decidable_of_iff
    ((Flow.counts n.kind = false → n.children = []) ∧ (n.kind = .booleanOperator → Operands n.children) ∧
      (n.kind = .ifStatement → n.children.countP (·.kind = .elseClause) ≤ 1) ∧
      ∀ k ∈ clauses, ∀ c ∈ n.children, c.kind = k → k.statement? = some n.kind)
    ⟨fun ⟨bare, operands, oneElse, places⟩ => ⟨bare, operands, oneElse, places⟩,
      fun ⟨bare, operands, oneElse, places⟩ => ⟨bare, operands, oneElse, places⟩⟩

/-- Syntax of the shape that the grammar gives. A clause is no piece of syntax by itself. -/
structure Grammatical (clauses : List Kind) (t : Node) : Prop where
  root : t.kind ∉ clauses
  shaped : ∀ n ∈ t.nodes, n.Shaped clauses

instance (clauses : List Kind) (t : Node) : Decidable (Grammatical clauses t) :=
  decidable_of_iff (t.kind ∉ clauses ∧ ∀ n ∈ t.nodes, n.Shaped clauses)
    ⟨fun ⟨root, shaped⟩ => ⟨root, shaped⟩, fun ⟨root, shaped⟩ => ⟨root, shaped⟩⟩

end Node

end CodeAudit.Syntax
