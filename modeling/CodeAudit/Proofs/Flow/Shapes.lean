import CodeAudit.Proofs.Flow.Rearrangement
import CodeAudit.Proofs.Functions.Listing
import CodeAudit.Proofs.Syntax.Branches
import Mathlib.Algebra.BigOperators.Group.List.Basic

/-! The numbers that flow keeps beside its children. In the flow of a text without errors they agree with the children,
and none of them is so small that it would add nothing to the complexity. -/
namespace CodeAudit.Flow

open Syntax

/-- The numbers in a node are those of its children: all of them are operands of a chain, and in an exception block
there is something besides the handlers and at most one cleanup. -/
structure Counted (t : Flow) : Prop where
  boolean : ∀ k, t.shape = .boolean k → 2 ≤ k ∧ t.children.length = k
  exceptions : ∀ h c, t.shape = .exceptions h c → 1 ≤ h + c ∧ c ≤ 1 ∧ h + c < t.children.length

theorem nodesOf_eq (ts : List Flow) : nodesOf ts = ts.flatMap nodes := by
  induction ts with
  | nil => rfl
  | cons t ts ih => rw [nodesOf, ih, List.flatMap_cons]

/-- The numbers in a tree are right throughout. -/
def CountedBelow (t : Flow) : Prop :=
  ∀ m ∈ t.nodes, m.Counted

theorem countedBelow_node {s : Shape} {ts : List Flow} :
    CountedBelow (node s ts) ↔ (node s ts).Counted ∧ ∀ t ∈ ts, CountedBelow t := by
  simp only [CountedBelow, nodes, nodesOf_eq, List.forall_mem_cons, List.mem_flatMap]
  refine and_congr_right fun _ => ⟨fun all t member m below => all m ⟨t, member, below⟩, ?_⟩
  rintro all m ⟨t, member, below⟩
  exact all t member m below

/-- A shape without numbers. -/
theorem counted_of_plain {s : Shape} (plain : s = .other ∨ s = .conditional ∨ s = .loop) (ts : List Flow) :
    (node s ts).Counted := by
  obtain rfl | rfl | rfl := plain <;> exact ⟨nofun, nofun⟩

variable {l : Label} {cs : List Node}

theorem countedBelow_ofNodes (below : ∀ c ∈ cs, CountedBelow (ofNode c)) : ∀ t ∈ ofNodes cs, CountedBelow t := by
  rw [ofNodes_eq]
  intro t member
  obtain ⟨c, filtered, rfl⟩ := List.mem_map.mp member
  exact below c (List.mem_of_mem_filter filtered)

/-- What lies in a clause of a conditional statement. -/
theorem countedBelow_of_clause {c : Node} (clause : c.kind = .elifClause ∨ c.kind = .elseClause)
    (below : CountedBelow (ofNode c)) : ∀ t ∈ ofNodes c.children, CountedBelow t := by
  rw [ofNode_of_clause clause, countedBelow_node] at below
  exact below.2

theorem countedBelow_continuation {orelse : Option (List Flow)} {elifs : List (List Flow)}
    (last : ∀ parts ∈ orelse, ∀ t ∈ parts, CountedBelow t) (each : ∀ parts ∈ elifs, ∀ t ∈ parts, CountedBelow t) :
    ∀ t ∈ continuation orelse elifs, CountedBelow t := by
  induction elifs with
  | nil =>
    intro t member
    rw [continuation, Option.mem_toList] at member
    obtain ⟨parts, there, rfl⟩ := Option.map_eq_some_iff.mp member
    exact countedBelow_node.mpr ⟨counted_of_plain (.inl rfl) _, last parts there⟩
  | cons parts rest ih =>
    obtain ⟨first, others⟩ := List.forall_mem_cons.mp each
    intro t member
    obtain rfl := List.mem_singleton.mp member
    exact countedBelow_node.mpr
      ⟨counted_of_plain (.inr (.inl rfl)) _, List.forall_mem_append.mpr ⟨first, ih others⟩⟩

theorem countedBelow_conditional (below : ∀ c ∈ cs, CountedBelow (ofNode c)) : CountedBelow (clauses cs).fold := by
  rw [fold_clauses, countedBelow_node]
  refine ⟨counted_of_plain (.inr (.inl rfl)) _, List.forall_mem_append.mpr ⟨?_, countedBelow_continuation ?_ ?_⟩⟩
  · intro t member
    obtain ⟨c, filtered, rfl⟩ := List.mem_map.mp member
    exact below c (List.mem_of_mem_filter filtered)
  · intro parts there
    obtain ⟨c, last, rfl⟩ := Option.map_eq_some_iff.mp there
    obtain ⟨child, clause⟩ := List.mem_filter.mp (List.mem_of_getLast? last)
    exact countedBelow_of_clause (.inr (of_decide_eq_true clause)) (below c child)
  · intro parts member
    obtain ⟨c, filtered, rfl⟩ := List.mem_map.mp member
    obtain ⟨child, clause⟩ := List.mem_filter.mp filtered
    exact countedBelow_of_clause (.inl (of_decide_eq_true clause)) (below c child)

/-- An operand brings something into its chain, and nothing that is not right. -/
theorem countedBelow_operand (op : Option Kind) {x : Node} (below : CountedBelow (ofNode x)) :
    1 ≤ (operand op x).length ∧ ∀ t ∈ operand op x, CountedBelow t := by
  rcases operand_cases op x with single | ⟨-, flow⟩
  · rw [single]
    exact ⟨Nat.le_refl 1, List.forall_mem_singleton.mpr below⟩
  · rw [flow, countedBelow_node] at below
    obtain ⟨own, below⟩ := below
    exact ⟨Nat.le_of_succ_le (own.boolean _ rfl).1, below⟩

theorem countedBelow_operandsAt (op : Option Kind) {side : Field} (present : ∃ c ∈ cs, c.label.field = some side)
    (below : ∀ c ∈ cs, CountedBelow (ofNode c)) :
    1 ≤ (operandsAt op side cs).length ∧ ∀ t ∈ operandsAt op side cs, CountedBelow t := by
  obtain ⟨c, child, field⟩ := present
  have found : (cs.find? (·.label.field = some side)).isSome :=
    List.find?_isSome.mpr ⟨c, child, decide_eq_true field⟩
  obtain ⟨x, first⟩ := Option.isSome_iff_exists.mp found
  rw [operandsAt_eq, first]
  exact countedBelow_operand op (below x (List.mem_of_find?_eq_some first))

theorem countedBelow_chain (complete : (Node.mk l cs).Complete) (kind : l.kind = .booleanOperator)
    (below : ∀ c ∈ cs, CountedBelow (ofNode c)) (op : Option Kind) :
    CountedBelow (node (.boolean (chain op cs).length) (chain op cs)) := by
  have hasLeft : ∃ c ∈ cs, c.label.field = some .left := complete.left kind
  have hasRight : ∃ c ∈ cs, c.label.field = some .right := complete.right kind
  obtain ⟨some, left⟩ := countedBelow_operandsAt op hasLeft below
  obtain ⟨some', right⟩ := countedBelow_operandsAt op hasRight below
  refine countedBelow_node.mpr ⟨⟨?_, nofun⟩, List.forall_mem_append.mpr ⟨left, right⟩⟩
  rintro k ⟨⟩
  refine ⟨?_, rfl⟩
  rw [chain, List.length_append]
  omega

/-- Clauses and blocks are different things, and all of them have a part in the flow of control. -/
theorem countP_clauses_le (cs : List Node) : cs.countP (isHandler ·.kind) + cs.countP (·.kind = .finallyClause) +
    cs.countP (·.kind = .block) ≤ cs.countP (counts ·.kind) := by
  have apart (k : Kind) : (if isHandler k then 1 else 0) + (if k = .finallyClause then 1 else 0) +
      (if k = .block then 1 else 0) ≤ if counts k then 1 else 0 := by
    by_cases special : k ∈ [Kind.exceptClause, .exceptGroupClause, .finallyClause, .block]
    · simp only [List.mem_cons, List.not_mem_nil, or_false] at special
      obtain rfl | rfl | rfl | rfl := special <;> decide
    · simp_all [isHandler]
  induction cs with
  | nil => simp
  | cons c cs ih =>
    have here := apart c.kind
    simp only [List.countP_cons, decide_eq_true_eq]
    omega

theorem countedBelow_block (complete : (Node.mk l cs).Complete) (kind : l.kind = .tryStatement)
    (below : ∀ c ∈ cs, CountedBelow (ofNode c)) : CountedBelow (node (blockShape cs) (ofNodes cs)) := by
  have all := countP_clauses_le cs
  obtain ⟨body, child, block⟩ := complete.body kind
  have bodies : 0 < cs.countP (·.kind = .block) := List.countP_pos_iff.mpr ⟨body, child, decide_eq_true block⟩
  have some : 0 < cs.countP (isHandler ·.kind) + cs.countP (·.kind = .finallyClause) := by
    obtain ⟨c, child, clause⟩ := complete.clauses kind
    rcases Bool.or_eq_true _ _ ▸ clause with handler | cleanup
    · exact Nat.add_pos_left (List.countP_pos_iff.mpr ⟨c, child, handler⟩) _
    · exact Nat.add_pos_right _ (List.countP_pos_iff.mpr ⟨c, child, cleanup⟩)
  refine countedBelow_node.mpr ⟨⟨nofun, ?_⟩, countedBelow_ofNodes below⟩
  rintro h c ⟨⟩
  refine ⟨some, complete.once kind, ?_⟩
  rw [children, ofNodes_eq, List.length_map, ← List.countP_eq_length_filter]
  omega

/-- The flow of syntax that is as the grammar has it. -/
theorem countedBelow_ofNode (n : Node) (complete : ∀ m ∈ n.nodes, m.Complete) : CountedBelow (ofNode n) := by
  induction n using Node.induct with
  | mk l cs ih =>
    have own := complete _ (Node.self_mem_nodes _)
    have below (c : Node) (child : c ∈ cs) : CountedBelow (ofNode c) :=
      ih c child fun m member => complete m (Node.mem_nodes_of_child child member)
    obtain ⟨-, flow⟩ | ⟨-, flow⟩ | ⟨kind, flow⟩ | ⟨kind, flow⟩ | ⟨-, flow⟩ := ofNode_cases l cs <;> rw [flow]
    · exact countedBelow_conditional below
    · exact countedBelow_node.mpr ⟨counted_of_plain (.inr (.inr rfl)) _, countedBelow_ofNodes below⟩
    · exact countedBelow_chain own kind below _
    · exact countedBelow_block own kind below
    · exact countedBelow_node.mpr ⟨counted_of_plain (.inl rfl) _, countedBelow_ofNodes below⟩

/-- What the one statement of a module is leaves no room for a part of another kind. -/
theorem branches_of_ofModule {root : Node} {t : Flow} (given : ofModule root = .ok t)
    (part : root.kind.branches → ∃ n ∈ root.children, n.kind.isPart) :
    t = ofNode root ∧ root.kind.branches = false := by
  rw [ofModule, filter_namedChildren] at given
  split at given
  · next one =>
    simp only [Bool.and_eq_true, decide_eq_true_eq] at one
    obtain ⟨found, single⟩ := one
    refine ⟨(Except.ok.inj given).symm, Bool.eq_false_iff.mpr fun branches => ?_⟩
    obtain ⟨n, child, part⟩ := part branches
    simp only [Kind.isPart, Bool.and_eq_true, Bool.not_eq_true'] at part
    have statement : n ∈ root.children.filter (counts ·.kind) := List.mem_filter.mpr ⟨child, part.1.1.1⟩
    have function := List.countP_eq_length.mp (found.trans single.symm) n statement
    have defines : n.kind.defines := by
      simp only [Node.isFunction, Bool.or_eq_true, Bool.and_eq_true, decide_eq_true_eq] at function
      obtain kind | ⟨kind, -⟩ := function <;> rw [kind] <;> rfl
    exact absurd (defines.symm.trans part.1.1.2) (by decide)
  · contradiction

mutual

theorem decisionPoints_eq_sum : ∀ t : Flow, t.decisionPoints = (t.nodes.map (·.shape.decisionPoints)).sum
  | .node s ts => by
    rw [decisionPoints, nodes, List.map_cons, List.sum_cons, decisionPointsOf_eq_sum ts]
    rfl

theorem decisionPointsOf_eq_sum : ∀ ts : List Flow,
    decisionPointsOf ts = ((nodesOf ts).map (·.shape.decisionPoints)).sum
  | [] => rfl
  | t :: ts => by
    rw [decisionPointsOf, nodesOf, List.map_append, List.sum_append, decisionPoints_eq_sum t,
      decisionPointsOf_eq_sum ts]

end

/-- In the flow of any text that is accepted the numbers in each node are those of its children: a chain has at least
two operands and no other children, and an exception block has at least one clause, at most one of them a cleanup, and
a body besides. The root is `other`. So the last operand can be taken off every chain, and every chain and every
exception block adds to the complexity, which is one more than what all nodes add. -/
theorem counted_of_parse {text : List Char} {t : Flow} (parsed : parse text = .ok t) :
    t.shape = .other ∧ (∀ m ∈ t.nodes, m.Counted) ∧
      (∀ m ∈ t.nodes, ∀ k, m.shape = .boolean k → m.shape.decisionPoints + 1 = k) ∧
      (∀ m ∈ t.nodes, (∃ k, m.shape = .boolean k) ∨ (∃ h c, m.shape = .exceptions h c) →
        1 ≤ m.shape.decisionPoints) ∧
      t.complexity = 1 + (t.nodes.map (·.shape.decisionPoints)).sum := by
  obtain ⟨root, accepted, made⟩ := bind_eq_ok.mp parsed
  obtain ⟨part, complete⟩ := branches_of_read (FunctionSource.read_of_readModule accepted)
  obtain ⟨rfl, other⟩ := branches_of_ofModule made part
  obtain ⟨l, cs⟩ := root
  have counted : CountedBelow (ofNode (.mk l cs)) := by
    refine countedBelow_ofNode _ fun m member => ?_
    rw [Node.nodes] at member
    rcases List.mem_cons.mp member with rfl | below
    · exact complete_of_other other
    · exact complete m below
  refine ⟨?_, counted, fun m member k shape => ?_, fun m member numbers => ?_, ?_⟩
  · have plain {k : Kind} (branches : k.branches) : l.kind ≠ k := by
      rintro rfl
      exact absurd (branches.symm.trans other) (by decide)
    obtain ⟨kind, -⟩ | ⟨kind | kind, -⟩ | ⟨kind, -⟩ | ⟨kind, -⟩ | ⟨-, flow⟩ := ofNode_cases l cs
    · exact absurd kind (plain rfl)
    · exact absurd kind (plain rfl)
    · exact absurd kind (plain rfl)
    · exact absurd kind (plain rfl)
    · exact absurd kind (plain rfl)
    · rw [flow]
      rfl
  · have two := ((counted m member).boolean k shape).1
    rw [shape, Shape.decisionPoints]
    omega
  · obtain ⟨k, shape⟩ | ⟨h, c, shape⟩ := numbers
    · have two := ((counted m member).boolean k shape).1
      rw [shape, Shape.decisionPoints]
      omega
    · rw [shape]
      exact ((counted m member).exceptions h c shape).1
  · rw [complexity, decisionPoints_eq_sum]

/-- A block with a handler and a cleanup, and in it a chain of three operands and one of two. -/
theorem counted_of_parse_of_block :
    let text := "def f(x):\n    try:\n        return x and x.y and (g or x)\n    except E:\n        pass\n" ++
      "    finally:\n        h(x)\n"
    ∃ t, parse text.toList = .ok t ∧ t.shape = .other ∧ (∀ m ∈ t.nodes, m.Counted) ∧
      t.complexity = 1 + (t.nodes.map (·.shape.decisionPoints)).sum ∧ t.complexity = 6 ∧
      [Shape.exceptions 1 1, .boolean 3, .boolean 2].Sublist (t.nodes.map shape) := by
  intro text
  have numbers : (parse text.toList).toOption.any fun t => decide (t.complexity = 6) &&
      [Shape.exceptions 1 1, .boolean 3, .boolean 2].isSublist (t.nodes.map shape) := by decide +kernel
  obtain ⟨t, parsed, numbers⟩ := exists_ok_of_toOption numbers
  rw [Bool.and_eq_true, decide_eq_true_eq, List.isSublist_iff_sublist] at numbers
  obtain ⟨root, counted, -, -, sum⟩ := counted_of_parse parsed
  exact ⟨t, parsed, root, counted, sum, numbers.1, numbers.2⟩

end CodeAudit.Flow
