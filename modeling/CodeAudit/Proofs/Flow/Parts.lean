import CodeAudit.Proofs.Syntax.Shape
import Mathlib.Algebra.GroupWithZero.Nat

/-! The flow of a node in terms of the flows of its children. The mutual recursion that makes flow out of syntax is
opened here, once for each of its functions; what is proved elsewhere follows the children of a node. -/
namespace CodeAudit.Flow

open Syntax

/-- The statements of a module are the nodes that count. -/
theorem filter_namedChildren (n : Node) :
    n.namedChildren.filter (·.kind ≠ .comment) = n.children.filter (counts ·.kind) := by
  rw [Node.namedChildren, List.filter_filter]
  refine List.filter_congr fun c _ => ?_
  rw [counts, Node.isNamed, Bool.and_comm, bne, decide_not]
  rfl

theorem ofNodes_eq (cs : List Node) : ofNodes cs = (cs.filter (counts ·.kind)).map ofNode := by
  induction cs with
  | nil => simp [ofNodes]
  | cons c rest ih =>
    rw [ofNodes, ih]
    by_cases h : counts c.kind <;> simp [h]

/-- The operands in an operation with the given children, those of its operands included that are operations of the
operator `op` themselves. -/
def chain (op : Option Kind) (cs : List Node) : List Flow :=
  operandsAt op .left cs ++ operandsAt op .right cs

/-- What a node contributes as an operand of a chain of `op`. -/
def operand (op : Option Kind) (x : Node) : List Flow :=
  if x.kind = .booleanOperator && operator? x.children = op then chain op x.children else [ofNode x]

theorem operandsAt_eq (op : Option Kind) (side : Field) (cs : List Node) :
    operandsAt op side cs = ((cs.find? (·.label.field = some side)).map (operand op)).getD [] := by
  induction cs with
  | nil => simp [operandsAt]
  | cons c rest ih =>
    obtain ⟨l, below⟩ := c
    by_cases h : l.field = some side
    · simp only [operandsAt, h, if_true, Node.label_mk, decide_true, List.find?_cons_of_pos, Option.map_some,
        Option.getD_some]
      rfl
    · simp [operandsAt, ih, h]

/-- Children of a conditional statement that are no clauses and have a part in the flow of control. -/
def isHead (c : Node) : Bool :=
  counts c.kind && c.kind != .elifClause && c.kind != .elseClause

/-- What lies before the clauses of a conditional statement. -/
def headParts (cs : List Node) : List Flow :=
  (cs.filter isHead).map ofNode

/-- What lies in each `elif` clause. -/
def elifParts (cs : List Node) : List (List Flow) :=
  (cs.filter (·.kind = .elifClause)).map (ofNodes ·.children)

/-- What lies in the last `else` part. -/
def elseParts? (cs : List Node) : Option (List Flow) :=
  (cs.filter (·.kind = .elseClause)).getLast?.map (ofNodes ·.children)

theorem clauses_eq (cs : List Node) :
    clauses cs = { head := headParts cs, elifs := elifParts cs, orelse := elseParts? cs } := by
  unfold headParts elifParts elseParts?
  induction cs with
  | nil => simp [clauses]
  | cons c rest ih =>
    obtain ⟨l, below⟩ := c
    rw [clauses, ih]
    by_cases elif : l.kind = .elifClause
    · simp [elif, isHead]
    by_cases orelse : l.kind = .elseClause
    · simp only [orelse, reduceCtorEq, if_false, if_true, isHead, bne_self_eq_false, Bool.and_false,
        Bool.false_eq_true, Node.kind_mk, List.filter_cons, decide_true, decide_false,
        List.getLast?_cons]
      cases (rest.filter (·.kind = .elseClause)).getLast? <;> rfl
    by_cases part : counts l.kind <;> simp [elif, orelse, part, isHead]

/-- Each child of a conditional statement is counted in its head, as an `elif` clause or as an `else` part. -/
theorem sum_parts (f : Node → Nat) (cs : List Node) (none : ∀ c ∈ cs, counts c.kind = false → f c = 0) :
    (cs.map f).sum = ((cs.filter isHead).map f).sum + ((cs.filter (·.kind = .elifClause)).map f).sum +
      ((cs.filter (·.kind = .elseClause)).map f).sum := by
  induction cs with
  | nil => rfl
  | cons c rest ih =>
    obtain ⟨first, others⟩ := List.forall_mem_cons.mp none
    have ih := ih others
    by_cases elif : c.kind = .elifClause
    · simp [elif, isHead, ih]; omega
    by_cases orelse : c.kind = .elseClause
    · simp [orelse, isHead, ih]; omega
    by_cases part : counts c.kind
    · simp [elif, orelse, part, isHead, ih]; omega
    · simp [elif, orelse, part, isHead, ih, first]

/-- At most one member with a property is the last one. -/
theorem sum_filter_of_countP_le_one {α : Type} {p : α → Bool} (f : α → Nat) {xs : List α}
    (once : xs.countP p ≤ 1) : ((xs.filter p).map f).sum = ((xs.filter p).getLast?.map f).getD 0 := by
  rw [List.countP_eq_length_filter] at once
  generalize xs.filter p = found at *
  match found with
  | [] => rfl
  | [x] => simp
  | _ :: _ :: _ => simp at once

/-- What follows the head of a conditional: each clause lies in the way out of the one before it. -/
def continuation (orelse : Option (List Flow)) : List (List Flow) → List Flow
  | [] => (orelse.map (node .other)).toList
  | parts :: rest => [node .conditional (parts ++ continuation orelse rest)]

theorem fold_eq (c : Clauses) : c.fold = node .conditional (c.head ++ continuation c.orelse c.elifs) := by
  have tail (elifs : List (List Flow)) :
      (elifs.foldr (fun parts tail => some (node .conditional (parts ++ tail.toList)))
        (c.orelse.map (node .other))).toList = continuation c.orelse elifs := by
    induction elifs with
    | nil => rfl
    | cons parts rest ih => simp [continuation, ih]
  simp [Clauses.fold, tail]

theorem fold_clauses (cs : List Node) :
    (clauses cs).fold = node .conditional (headParts cs ++ continuation (elseParts? cs) (elifParts cs)) := by
  rw [fold_eq, clauses_eq]

/-- Every way in which a node can become flow. -/
theorem ofNode_cases (l : Label) (cs : List Node) :
    (l.kind = .ifStatement ∧ ofNode (.mk l cs) = (clauses cs).fold) ∨
    ((l.kind = .forStatement ∨ l.kind = .whileStatement) ∧ ofNode (.mk l cs) = node .loop (ofNodes cs)) ∨
    (l.kind = .booleanOperator ∧ ofNode (.mk l cs) =
      node (.boolean (chain (operator? cs) cs).length) (chain (operator? cs) cs)) ∨
    (l.kind = .tryStatement ∧ ofNode (.mk l cs) = node (blockShape cs) (ofNodes cs)) ∨
    ((l.kind ∉ [Kind.ifStatement, .forStatement, .whileStatement, .booleanOperator, .tryStatement]) ∧
      ofNode (.mk l cs) = node .other (ofNodes cs)) := by
  rw [ofNode]
  split <;> simp_all [chain]

/-- An operand is one flow, or it is an operation whose own chain is taken in. -/
theorem operand_cases (op : Option Kind) (x : Node) : operand op x = [ofNode x] ∨
    (x.kind = .booleanOperator ∧ ofNode x = node (.boolean (operand op x).length) (operand op x)) := by
  unfold operand
  split
  · next absorbed =>
    simp only [Bool.and_eq_true, decide_eq_true_eq] at absorbed
    obtain ⟨l, cs⟩ := x
    have kind : l.kind = .booleanOperator := absorbed.1
    refine .inr ⟨kind, ?_⟩
    rw [ofNode, kind, ← absorbed.2]
    rfl
  · exact .inl rfl

/-- A chain consists of what either operand contributes. -/
theorem chain_of_operands {cs : List Node} (operands : Node.Operands cs) (op : Option Kind) :
    ∃ x y others, chain op cs = operand op x ++ operand op y ∧ cs.Perm (x :: y :: others) ∧
      ∀ c ∈ others, c.children = [] ∧ (c.kind.isNamed → c.kind.isExtra) := by
  obtain ⟨x, y, others, foundLeft, foundRight, perm, leaves⟩ := operands.sides
  exact ⟨x, y, others, by simp [chain, operandsAt_eq, foundLeft, foundRight], perm, leaves⟩

/-- An operand contributes something, however deep its own chain goes. -/
theorem length_operand_pos {kinds : List Kind} (op : Option Kind) (n : Node)
    (shaped : ∀ m ∈ n.nodes, m.Shaped kinds) : 0 < (operand op n).length := by
  induction n using Node.induct with
  | mk l cs ih =>
    unfold operand
    split
    · next absorbed =>
      simp only [Bool.and_eq_true, decide_eq_true_eq] at absorbed
      obtain ⟨x, y, _, chain, perm, -⟩ :=
        chain_of_operands ((shaped _ (Node.self_mem_nodes _)).operands absorbed.1) op
      have left := ih x (perm.mem_iff.mpr (by simp)) fun m below =>
        shaped m (Node.mem_nodes_of_child (perm.mem_iff.mpr (by simp)) below)
      rw [chain, List.length_append]
      omega
    · simp

/-- A clause by itself only holds what is in it. -/
theorem ofNode_of_clause {n : Node}
    (clause : n.kind = .elifClause ∨ n.kind = .elseClause) : ofNode n = node .other (ofNodes n.children) := by
  obtain ⟨l, cs⟩ := n
  rw [Node.kind_mk] at clause
  rw [ofNode, Node.children_mk]
  obtain kind | kind := clause <;> rw [kind]

theorem isExtra_of_not_counts {k : Kind} (none : counts k = false) (named : k.isNamed) : k.isExtra := by
  have comment : k = .comment := by simpa [counts, named] using none
  rw [comment]
  rfl

/-- A token, comment or joined line that holds nothing has no flow of control in it. -/
theorem ofNode_of_leaf {n : Node} (leaf : n.children = []) (idle : n.kind.isNamed → n.kind.isExtra) :
    ofNode n = node .other [] := by
  obtain ⟨l, cs⟩ := n
  obtain rfl : cs = [] := leaf
  rw [Node.kind_mk] at idle
  obtain ⟨h, -⟩ | ⟨h | h, -⟩ | ⟨h, -⟩ | ⟨h, -⟩ | ⟨-, h⟩ := ofNode_cases l []
  · exact absurd (h ▸ idle) (by decide)
  · exact absurd (h ▸ idle) (by decide)
  · exact absurd (h ▸ idle) (by decide)
  · exact absurd (h ▸ idle) (by decide)
  · exact absurd (h ▸ idle) (by decide)
  · rw [h, ofNodes_eq]
    rfl

end CodeAudit.Flow
