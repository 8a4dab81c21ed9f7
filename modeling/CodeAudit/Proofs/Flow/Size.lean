import CodeAudit.Proofs.Flow.Parts
import Mathlib.Algebra.BigOperators.Group.List.Basic

/-! The size of flow, read off the syntax. Whatever has a part in the flow of control becomes one node of flow, however
it is moved about; only operations that join the chain of another one, and what stands in an operation without being an
operand, become none. -/
namespace CodeAudit.Flow

open Syntax

/-- An operand of the operation in which it stands. -/
def isSide (c : Node) : Bool :=
  c.label.field = some .left || c.label.field = some .right

/-- Whether a node is an operation of the given operator. -/
def isOperationOf (op : Option Kind) (c : Node) : Bool :=
  c.kind = .booleanOperator && operator? c.children = op

/-- The operands of an operation that join its chain. -/
def absorbed (n : Node) : Nat :=
  if n.kind = .booleanOperator then n.children.countP fun c => isSide c && isOperationOf (operator? n.children) c
  else 0

/-- What stands in an operation and is no operand, comments apart. -/
def strewn (n : Node) : Nat :=
  if n.kind = .booleanOperator then n.children.countP fun c => counts c.kind && !isSide c else 0

/-- The operands of an operation have a part in the flow of control. -/
def Partaking (n : Node) : Prop :=
  n.kind = .booleanOperator → ∀ c ∈ n.children, isSide c → counts c.kind

instance (n : Node) : Decidable (Partaking n) :=
  inferInstanceAs (Decidable (_ → _))

section Sizes

@[simp] theorem size_node (s : Shape) (ts : List Flow) : (node s ts).size = 1 + sizes ts := by
  rw [size]

@[simp] theorem sizes_nil : sizes [] = 0 := by
  rw [sizes]

@[simp] theorem sizes_cons (t : Flow) (ts : List Flow) : sizes (t :: ts) = t.size + sizes ts := by
  rw [sizes]

@[simp] theorem sizes_append (ts us : List Flow) : sizes (ts ++ us) = sizes ts + sizes us := by
  induction ts with
  | nil => simp
  | cons t ts ih => simp [ih, Nat.add_assoc]

theorem sizes_map (cs : List Node) : sizes (cs.map ofNode) = (cs.map fun c => (ofNode c).size).sum := by
  induction cs with
  | nil => simp
  | cons c cs ih => simp [ih]

/-- Every clause of a conditional is one node more. -/
theorem sizes_continuation (orelse : Option (List Flow)) (elifs : List (List Flow)) :
    sizes (continuation orelse elifs) =
      (elifs.map fun parts => 1 + sizes parts).sum + (orelse.map fun parts => 1 + sizes parts).getD 0 := by
  induction elifs with
  | nil => cases orelse <;> simp [continuation]
  | cons parts rest ih => simp [continuation, ih]; omega

end Sizes

/-- The size that a child adds to the flow of its parent. -/
def added (c : Node) : Nat :=
  if counts c.kind then (ofNode c).size else 0

theorem sizes_ofNodes (cs : List Node) : sizes (ofNodes cs) = (cs.map added).sum := by
  rw [ofNodes_eq, sizes_map]
  induction cs with
  | nil => rfl
  | cons c cs ih =>
    rw [List.map_cons, List.sum_cons, ← ih, added]
    by_cases part : counts c.kind <;> simp [part]

/-- A conditional statement is one node, and its parts are as large as by themselves. -/
theorem size_conditional {cs : List Node} (once : cs.countP (·.kind = .elseClause) ≤ 1) :
    (clauses cs).fold.size = 1 + (cs.map added).sum := by
  have idle : ∀ c ∈ cs, counts c.kind = false → added c = 0 := fun c _ none => by simp [added, none]
  have clause {c : Node} (kind : c.kind = .elifClause ∨ c.kind = .elseClause) :
      added c = 1 + sizes (ofNodes c.children) := by
    have part : counts c.kind := by obtain h | h := kind <;> rw [h] <;> rfl
    rw [added, if_pos part, ofNode_of_clause kind, size_node]
  have head : (cs.filter isHead).map added = (cs.filter isHead).map fun c => (ofNode c).size := by
    refine List.map_congr_left fun c member => ?_
    have part : counts c.kind := by
      have is := (List.mem_filter.mp member).2
      simp only [isHead, Bool.and_eq_true] at is
      exact is.1.1
    rw [added, if_pos part]
  have elifs : (cs.filter (·.kind = .elifClause)).map added =
      (cs.filter (·.kind = .elifClause)).map fun c => 1 + sizes (ofNodes c.children) :=
    List.map_congr_left fun c member => clause (.inl (of_decide_eq_true (List.mem_filter.mp member).2))
  have orelse : (cs.filter (·.kind = .elseClause)).map added =
      (cs.filter (·.kind = .elseClause)).map fun c => 1 + sizes (ofNodes c.children) :=
    List.map_congr_left fun c member => clause (.inr (of_decide_eq_true (List.mem_filter.mp member).2))
  rw [fold_clauses, sum_parts _ _ idle, head, elifs, orelse, sum_filter_of_countP_le_one _ once]
  simp only [size_node, sizes_append, sizes_continuation, headParts, elifParts, elseParts?, sizes_map, List.map_map,
    Option.map_map, Function.comp_def]
  omega

theorem operand_eq (op : Option Kind) (x : Node) :
    operand op x = if isOperationOf op x then chain op x.children else [ofNode x] :=
  rfl

/-- An operand that joins the chain is lost, but nothing of what it holds. -/
theorem sizes_operand (op : Option Kind) (x : Node) :
    sizes (operand op x) + (if isOperationOf op x then 1 else 0) = (ofNode x).size := by
  by_cases joins : isOperationOf op x
  · rw [operand_eq, if_pos joins, if_pos joins]
    simp only [isOperationOf, Bool.and_eq_true, decide_eq_true_eq] at joins
    obtain ⟨l, cs⟩ := x
    have kind : l.kind = .booleanOperator := joins.1
    rw [ofNode, kind, ← joins.2, size_node, Nat.add_comm]
    rfl
  · rw [operand_eq, if_neg joins, if_neg joins]
    simp

/-- The two operands of an operation, each of them once, and what else stands there. -/
theorem exists_sides {cs : List Node} (operands : Node.Operands cs) (op : Option Kind) :
    ∃ x y others, chain op cs = operand op x ++ operand op y ∧ cs.Perm (x :: y :: others) ∧ isSide x ∧ isSide y ∧
      ∀ c ∈ others, isSide c = false ∧ c.children = [] ∧ (c.kind.isNamed → c.kind.isExtra) := by
  obtain ⟨x, y, others, foundLeft, foundRight, perm, leaves⟩ := operands.sides
  have left : x.label.field = some .left := by simpa using List.find?_some foundLeft
  have right : y.label.field = some .right := by simpa using List.find?_some foundRight
  have once := operands.left
  have once' := operands.right
  rw [perm.countP_eq] at once once'
  simp only [List.countP_cons, left, right, decide_true, reduceCtorEq, Option.some.injEq, decide_false, if_true,
    Bool.false_eq_true, if_false, Nat.add_zero, Nat.add_eq_right, List.countP_eq_zero] at once once'
  refine ⟨x, y, others, by simp [chain, operandsAt_eq, foundLeft, foundRight], perm, by simp [isSide, left],
    by simp [isSide, right], fun c member => ⟨?_, leaves c member⟩⟩
  have notLeft := once c member
  have notRight := once' c member
  simp_all [isSide]

theorem sum_added_of_leaves {cs : List Node}
    (leaves : ∀ c ∈ cs, c.children = [] ∧ (c.kind.isNamed → c.kind.isExtra)) :
    (cs.map added).sum = cs.countP (counts ·.kind) := by
  induction cs with
  | nil => rfl
  | cons c cs ih =>
    obtain ⟨⟨leaf, idle⟩, others⟩ := List.forall_mem_cons.mp leaves
    rw [List.map_cons, List.sum_cons, List.countP_cons, ih others, added, ofNode_of_leaf leaf idle, size_node,
      sizes_nil]
    exact Nat.add_comm ..

/-- An operation is one node, and its parts are as large as by themselves, but for what is lost. -/
theorem size_operation {l : Label} {cs : List Node} (kind : l.kind = .booleanOperator)
    (operands : Node.Operands cs) (partaking : Partaking (.mk l cs)) :
    (ofNode (.mk l cs)).size + absorbed (.mk l cs) + strewn (.mk l cs) = 1 + (cs.map added).sum := by
  obtain ⟨x, y, others, chained, perm, left, right, rest⟩ := exists_sides operands (operator? cs)
  have flow : ofNode (.mk l cs) = node (.boolean (chain (operator? cs) cs).length) (chain (operator? cs) cs) := by
    rw [ofNode, kind]
    rfl
  have atLeft := sizes_operand (operator? cs) x
  have atRight := sizes_operand (operator? cs) y
  have partX : counts x.kind := partaking kind x (perm.mem_iff.mpr (by simp)) left
  have partY : counts y.kind := partaking kind y (perm.mem_iff.mpr (by simp)) right
  have lost : absorbed (.mk l cs) = (if isOperationOf (operator? cs) x then 1 else 0) +
      if isOperationOf (operator? cs) y then 1 else 0 := by
    have none : others.countP (fun c => isSide c && isOperationOf (operator? cs) c) = 0 := by
      rw [List.countP_eq_zero]
      intro c member
      simp [(rest c member).1]
    rw [absorbed, Node.kind_mk, Node.children_mk, if_pos kind, perm.countP_eq, List.countP_cons, List.countP_cons, none,
      left, right, Bool.true_and, Bool.true_and]
    omega
  have strewn : strewn (.mk l cs) = others.countP (counts ·.kind) := by
    rw [Flow.strewn, Node.kind_mk, Node.children_mk, if_pos kind, perm.countP_eq, List.countP_cons, List.countP_cons,
      left, right]
    simp only [Bool.not_true, Bool.and_false, Bool.false_eq_true, if_false, Nat.add_zero]
    refine List.countP_congr fun c member => ?_
    simp [(rest c member).1]
  have leaves := sum_added_of_leaves fun c member => (rest c member).2
  rw [flow, size_node, chained, sizes_append, lost, strewn, (perm.map added).sum_nat, List.map_cons, List.map_cons,
    List.sum_cons, List.sum_cons, leaves, added, added, if_pos partX, if_pos partY]
  omega

/-- What is lost in a node and below it. -/
def lost (n : Node) : Nat :=
  (n.nodes.map fun m => absorbed m + strewn m).sum

theorem lost_mk (l : Label) (cs : List Node) :
    lost (.mk l cs) = absorbed (.mk l cs) + strewn (.mk l cs) + (cs.map lost).sum := by
  have below : ((cs.flatMap Node.nodes).map fun m => absorbed m + strewn m).sum = (cs.map lost).sum := by
    induction cs with
    | nil => rfl
    | cons c cs ih => simp [ih, lost]
  simp [lost, Node.nodes_mk, below]

theorem countP_nodes (p : Node → Bool) (l : Label) (cs : List Node) : (Node.mk l cs).nodes.countP p =
    (cs.map fun c => c.nodes.countP p).sum + if p (.mk l cs) then 1 else 0 := by
  rw [Node.nodes_mk, List.countP_cons, List.countP_flatMap]
  rfl

/-- A node is one node, and its parts are as large as by themselves, but for what is lost of an operation. -/
theorem size_add_lost_here {clauses : List Kind} {l : Label} {cs : List Node} (own : (Node.mk l cs).Shaped clauses)
    (partaking : Partaking (.mk l cs)) :
    (ofNode (.mk l cs)).size + absorbed (.mk l cs) + strewn (.mk l cs) = 1 + (cs.map added).sum := by
  have plain (other : l.kind ≠ .booleanOperator) (size : (ofNode (.mk l cs)).size = 1 + (cs.map added).sum) :
      (ofNode (.mk l cs)).size + absorbed (.mk l cs) + strewn (.mk l cs) = 1 + (cs.map added).sum := by
    rw [absorbed, strewn, Node.kind_mk, if_neg other, if_neg other, size, Nat.add_zero]
  obtain ⟨kind, flow⟩ | ⟨kind, flow⟩ | ⟨kind, -⟩ | ⟨kind, flow⟩ | ⟨kind, flow⟩ := ofNode_cases l cs
  · refine plain (by simp [kind]) ?_
    rw [flow]
    exact size_conditional (own.oneElse kind)
  · refine plain (by obtain h | h := kind <;> simp [h]) ?_
    rw [flow, size_node, sizes_ofNodes]
  · exact size_operation kind (own.operands kind) partaking
  · refine plain (by simp [kind]) ?_
    rw [flow, size_node, sizes_ofNodes]
  · refine plain (by rintro h; simp [h] at kind) ?_
    rw [flow, size_node, sizes_ofNodes]

/-- The nodes below a node that have a part in the flow of control become nodes of its flow or are lost. -/
theorem size_add_lost {clauses : List Kind} (n : Node) (shaped : ∀ m ∈ n.nodes, m.Shaped clauses)
    (partaking : ∀ m ∈ n.nodes, Partaking m) :
    (ofNode n).size + lost n = 1 + (n.children.map fun c => c.nodes.countP (counts ·.kind)).sum := by
  induction n using Node.induct with
  | mk l cs ih =>
    have each : ∀ c ∈ cs, c.nodes.countP (counts ·.kind) = added c + lost c := by
      intro c child
      have below : ∀ m ∈ c.nodes, m ∈ (Node.mk l cs).nodes := fun m => Node.mem_nodes_of_child child
      have whole := ih c child (fun m member => shaped m (below m member)) fun m member => partaking m (below m member)
      have bare := (shaped c (below c c.self_mem_nodes)).bare
      obtain ⟨k, ds⟩ := c
      rw [countP_nodes, added]
      by_cases part : counts (Node.mk k ds).kind
      · rw [if_pos part, if_pos part, whole, Nat.add_comm]
        rfl
      · obtain rfl : ds = [] := bare (by simpa using part)
        have none : lost (.mk k []) = 0 := by
          by_cases operation : k.kind = .booleanOperator <;> simp [lost_mk, absorbed, strewn, operation]
        rw [if_neg part, if_neg part, none]
        rfl
    have own := size_add_lost_here (shaped _ (Node.self_mem_nodes _)) (partaking _ (Node.self_mem_nodes _))
    have split : (cs.map fun c => added c + lost c).sum = (cs.map added).sum + (cs.map lost).sum :=
      List.sum_map_add
    rw [lost_mk, Node.children_mk, List.map_congr_left each, split]
    omega

/-- No node is lost or doubled on the way from syntax to flow. There are as many nodes of flow as there are nodes of
syntax that have a part in it, less the operations that join the chain of another one and what stands in operations
without being an operand. -/
theorem size_ofNode (t : Node) (part : counts t.kind) (grammatical : t.Grammatical [])
    (partaking : ∀ n ∈ t.nodes, Partaking n) :
    (ofNode t).size + (t.nodes.map absorbed).sum + (t.nodes.map strewn).sum = t.nodes.countP (counts ·.kind) := by
  have whole := size_add_lost t grammatical.shaped partaking
  have split : lost t = (t.nodes.map absorbed).sum + (t.nodes.map strewn).sum := List.sum_map_add
  obtain ⟨l, cs⟩ := t
  rw [countP_nodes, if_pos part, Nat.add_comm _ 1]
  rw [split, Node.children_mk, ← Nat.add_assoc] at whole
  exact whole

/-- A statement with two clauses and an `else` part around a loop, comments strewn in; in its condition three operands of
`and`, with a joined line between them, within an operation of `or`. -/
theorem size_of_mixed_syntax :
    let leaf (f : Field) : Node := .mk { kind := .identifier, field := some f } []
    let join (k : Kind) (f : Field) (x y : Node) : Node := .mk { kind := .booleanOperator, field := some f } [x,
      .mk { kind := .comment } [], .mk { kind := k, field := some .operator } [], .mk { kind := .lineContinuation } [], y]
    let chain := join .andWord .left (join .andWord .left (leaf .left) (leaf .right)) (leaf .right)
    let t : Node := .mk { kind := .ifStatement } [.mk { kind := .ifWord } [], join .orWord .condition chain (leaf .right),
      .mk { kind := .elifClause } [leaf .condition], .mk { kind := .comment } [], .mk { kind := .elifClause } [],
      .mk { kind := .elseClause } [.mk { kind := .forStatement } []]]
    counts t.kind ∧ t.Grammatical [] ∧ (∀ n ∈ t.nodes, Partaking n) ∧
      (ofNode t).size + (t.nodes.map absorbed).sum + (t.nodes.map strewn).sum = t.nodes.countP (counts ·.kind) ∧
      (ofNode t).size = 12 ∧ (t.nodes.map absorbed).sum = 1 ∧ (t.nodes.map strewn).sum = 3 := by
  exact ⟨by decide, by decide, by decide, size_ofNode _ (by decide) (by decide) (by decide), by decide, by decide,
    by decide⟩

end CodeAudit.Flow
