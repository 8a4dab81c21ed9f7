import CodeAudit.Flow.Complexity
import CodeAudit.Flow.Nesting
import CodeAudit.Proofs.Flow.Parts

/-! Counting constructs in syntax and in the flow made of it. Flow is arranged anew: boolean operations become chains,
`elif` clauses nest, and handlers are counted where their block is. None of this loses a construct or counts one
twice, so that both counts agree. -/
namespace CodeAudit

open Syntax

/-- What is counted for a conditional or loop, for a boolean operator and for a handler or cleanup. -/
structure Tally where
  branch : Nat
  operator : Nat
  clause : Nat

namespace Tally

variable (w : Tally)

/-- What a node of flow counts by itself. A chain stands for one operator between any two operands. -/
def ofShape : Shape → Nat
  | .other => 0
  | .conditional | .loop => w.branch
  | .boolean operands => w.operator * (operands - 1)
  | .exceptions handlers cleanups => w.clause * (handlers + cleanups)

/-- What a node of syntax counts by itself. -/
def ofKind : Kind → Nat
  | .ifStatement | .elifClause | .forStatement | .whileStatement => w.branch
  | .booleanOperator => w.operator
  | .exceptClause | .exceptGroupClause | .finallyClause => w.clause
  | _ => 0

mutual

def ofFlow : Flow → Nat
  | .node s cs => w.ofShape s + ofFlows cs

def ofFlows : List Flow → Nat
  | [] => 0
  | t :: ts => ofFlow t + ofFlows ts

end

def ofSyntax (n : Node) : Nat :=
  (n.nodes.map (w.ofKind ·.kind)).sum

/-- What a clause counts in its statement. In flow it is the statement that counts it. -/
def ofClause (k : Kind) : Nat :=
  if k.statement?.isSome then w.ofKind k else 0

@[simp] theorem ofFlow_node (s : Shape) (ts : List Flow) : w.ofFlow (.node s ts) = w.ofShape s + w.ofFlows ts := by
  rw [ofFlow]

@[simp] theorem ofFlows_nil : w.ofFlows [] = 0 := by
  rw [ofFlows]

@[simp] theorem ofFlows_cons (t : Flow) (ts : List Flow) : w.ofFlows (t :: ts) = w.ofFlow t + w.ofFlows ts := by
  rw [ofFlows]

@[simp] theorem ofFlows_append (ts us : List Flow) : w.ofFlows (ts ++ us) = w.ofFlows ts + w.ofFlows us := by
  induction ts with
  | nil => simp
  | cons t ts ih => simp [ih]; omega

theorem ofFlows_map (f : Node → Flow) (cs : List Node) :
    w.ofFlows (cs.map f) = (cs.map fun c => w.ofFlow (f c)).sum := by
  induction cs with
  | nil => simp
  | cons c cs ih => simp [ih]

theorem ofSyntax_mk (l : Label) (cs : List Node) :
    w.ofSyntax (.mk l cs) = w.ofKind l.kind + (cs.map w.ofSyntax).sum := by
  have below : ((cs.flatMap Node.nodes).map (w.ofKind ·.kind)).sum = (cs.map w.ofSyntax).sum := by
    induction cs with
    | nil => rfl
    | cons c cs ih => simp [ih, ofSyntax]
  simp [ofSyntax, Node.nodes_mk, below]

/-- Tokens, comments and joined lines count nothing. -/
theorem ofKind_of_idle {k : Kind} (idle : k.isNamed → k.isExtra) : w.ofKind k = 0 := by
  unfold ofKind
  split <;> first | rfl | exact absurd idle (by decide)

theorem ofSyntax_of_leaf {n : Node} (leaf : n.children = []) (idle : n.kind.isNamed → n.kind.isExtra) :
    w.ofSyntax n = 0 := by
  obtain ⟨l, cs⟩ := n
  obtain rfl : cs = [] := leaf
  rw [Node.kind_mk] at idle
  rw [ofSyntax_mk, w.ofKind_of_idle idle]
  rfl

theorem ofClause_eq (k : Kind) : w.ofClause k = (if k = .elifClause then w.branch else 0) +
    w.clause * ((if Flow.isHandler k then 1 else 0) + if k = .finallyClause then 1 else 0) := by
  unfold ofClause Kind.statement?
  split <;> simp_all [ofKind, Flow.isHandler]

/-- Of the kinds that keep no shape in flow only clauses count anything. -/
theorem ofKind_eq_ofClause {k : Kind}
    (shapeless : k ∉ [Kind.ifStatement, .forStatement, .whileStatement, .booleanOperator, .tryStatement]) :
    w.ofKind k = w.ofClause k := by
  unfold ofClause ofKind
  split <;> simp_all [Kind.statement?]

/-- Clauses in the way out of a conditional count one branch each. -/
theorem ofFlows_continuation (orelse : Option (List Flow)) (elifs : List (List Flow)) :
    w.ofFlows (Flow.continuation orelse elifs) =
      (elifs.map fun parts => w.branch + w.ofFlows parts).sum + (orelse.map w.ofFlows).getD 0 := by
  induction elifs with
  | nil => cases orelse <;> simp [Flow.continuation, ofShape]
  | cons parts rest ih => simp [Flow.continuation, ofShape, ih]; omega

/-- What a node counts in syntax is what its flow counts, and besides what it counts as a clause. -/
def Agrees (n : Node) : Prop :=
  w.ofSyntax n = w.ofClause n.kind + w.ofFlow (Flow.ofNode n)

variable {w}

/-- The children of a node count what their flows count, and besides what they count as clauses. -/
theorem sum_ofSyntax {cs : List Node} (agree : ∀ c ∈ cs, w.Agrees c) (bare : ∀ c ∈ cs, c.Bare) :
    (cs.map w.ofSyntax).sum = (cs.map (w.ofClause ·.kind)).sum + w.ofFlows (Flow.ofNodes cs) := by
  induction cs with
  | nil => simp [Flow.ofNodes_eq]
  | cons c rest ih =>
    obtain ⟨first, others⟩ := List.forall_mem_cons.mp agree
    obtain ⟨bareFirst, bareOthers⟩ := List.forall_mem_cons.mp bare
    have ih := ih others bareOthers
    rw [Agrees] at first
    rw [Flow.ofNodes_eq] at ih ⊢
    by_cases part : Flow.counts c.kind
    · simp [part, ih, first]; omega
    · have none : Flow.counts c.kind = false := by simpa using part
      have leaf := Flow.ofNode_of_leaf (bareFirst none) (Flow.isExtra_of_not_counts none)
      simp [part, ih, first, leaf, ofShape]; omega

/-- An operator before each operand counts the same with an operand's own chain taken in or not. -/
theorem ofFlows_operand {kinds : List Kind} (op : Option Kind) {x : Node} (shaped : ∀ m ∈ x.nodes, m.Shaped kinds) :
    w.operator * (Flow.operand op x).length + w.ofFlows (Flow.operand op x) =
      w.operator + w.ofFlow (Flow.ofNode x) := by
  have some := Flow.length_operand_pos op x shaped
  obtain single | ⟨-, chain⟩ := Flow.operand_cases op x
  · simp [single]
  · obtain ⟨more, length⟩ : ∃ more, (Flow.operand op x).length = more + 1 :=
      ⟨(Flow.operand op x).length - 1, by omega⟩
    rw [chain, ofFlow_node, ofShape, length, Nat.mul_succ, Nat.add_sub_cancel]
    omega

/-- The flow of a boolean operation counts its operator and its operands. -/
theorem ofFlow_operation {kinds : List Kind} {cs : List Node} (shaped : ∀ c ∈ cs, ∀ m ∈ c.nodes, m.Shaped kinds)
    (operands : Node.Operands cs) (op : Option Kind) :
    w.ofShape (.boolean (Flow.chain op cs).length) + w.ofFlows (Flow.chain op cs) =
      w.operator + (cs.map fun c => w.ofFlow (Flow.ofNode c)).sum := by
  obtain ⟨x, y, others, chain, perm, leaves⟩ := Flow.chain_of_operands operands op
  have left := shaped x (perm.mem_iff.mpr (by simp))
  have right := shaped y (perm.mem_iff.mpr (by simp))
  have rest : (others.map fun c => w.ofFlow (Flow.ofNode c)).sum = 0 := by
    rw [List.sum_eq_zero_iff_forall_eq_nat, List.forall_mem_map]
    intro c member
    rw [Flow.ofNode_of_leaf (leaves c member).1 (leaves c member).2]
    simp [ofShape]
  have atLeft := ofFlows_operand (w := w) op left
  have atRight := ofFlows_operand (w := w) op right
  obtain ⟨more, length⟩ : ∃ more, (Flow.operand op x).length + (Flow.operand op y).length = more + 1 :=
    ⟨_, (Nat.succ_pred (Nat.ne_of_gt (Nat.add_pos_left (Flow.length_operand_pos op x left) _))).symm⟩
  have joined : w.operator * (Flow.operand op x).length + w.operator * (Flow.operand op y).length =
      w.operator * more + w.operator := by
    rw [← Nat.mul_add, length, Nat.mul_succ]
  rw [(perm.map fun c => w.ofFlow (Flow.ofNode c)).sum_nat, chain, List.length_append, length]
  simp only [ofFlows_append, ofShape, List.map_cons, List.sum_cons, rest, Nat.add_sub_cancel]
  omega

/-- The clauses that count anything are among the given ones. -/
def Minds (w : Tally) (clauses : List Kind) : Prop :=
  ∀ k, w.ofClause k ≠ 0 → k ∈ clauses

/-- A clause that does not stand in its statement counts nothing. -/
theorem ofClause_elsewhere {clauses : List Kind} (minds : w.Minds clauses) {n c : Node}
    (shaped : n.Shaped clauses) (child : c ∈ n.children) (elsewhere : c.kind.statement? ≠ some n.kind) :
    w.ofClause c.kind = 0 :=
  Decidable.byContradiction fun counted =>
    elsewhere (shaped.places c.kind (minds c.kind counted) c child rfl)

theorem ofClause_of_ne {clauses : List Kind} (minds : w.Minds clauses) {l : Label} {cs : List Node}
    (shaped : (Node.mk l cs).Shaped clauses) (notIf : l.kind ≠ .ifStatement) (notTry : l.kind ≠ .tryStatement) :
    ∀ c ∈ cs, w.ofClause c.kind = 0 := by
  intro c child
  apply ofClause_elsewhere minds shaped child
  unfold Kind.statement?
  split <;> simp [Ne.symm notIf, Ne.symm notTry]

theorem sum_ofClause_of_ne {clauses : List Kind} (minds : w.Minds clauses) {l : Label} {cs : List Node}
    (shaped : (Node.mk l cs).Shaped clauses) (notIf : l.kind ≠ .ifStatement) (notTry : l.kind ≠ .tryStatement) :
    (cs.map (w.ofClause ·.kind)).sum = 0 := by
  rw [List.sum_eq_zero_iff_forall_eq_nat, List.forall_mem_map]
  exact ofClause_of_ne minds shaped notIf notTry

/-- The count of a conditional statement, clause by clause. -/
theorem ofSyntax_conditional {clauses : List Kind} (minds : w.Minds clauses) {l : Label} {cs : List Node}
    (agree : ∀ c ∈ cs, w.Agrees c) (shaped : (Node.mk l cs).Shaped clauses) (bare : ∀ c ∈ cs, c.Bare)
    (kind : l.kind = .ifStatement) :
    w.ofSyntax (.mk l cs) = w.ofFlow (Flow.clauses cs).fold := by
  have idle : ∀ c ∈ cs, Flow.counts c.kind = false → w.ofSyntax c = 0 := fun c child none =>
    w.ofSyntax_of_leaf (bare c child none) (Flow.isExtra_of_not_counts none)
  have head : (cs.filter Flow.isHead).map w.ofSyntax =
      (cs.filter Flow.isHead).map fun c => w.ofFlow (Flow.ofNode c) := by
    apply List.map_congr_left
    intro c member
    simp only [List.mem_filter, Flow.isHead, Bool.and_eq_true, bne_iff_ne] at member
    obtain ⟨child, ⟨-, notElif⟩, -⟩ := member
    have elsewhere : c.kind.statement? ≠ some l.kind := by
      rw [kind]
      unfold Kind.statement?
      split <;> simp_all
    rw [agree c child, ofClause_elsewhere minds shaped child elsewhere, Nat.zero_add]
  have elifs : (cs.filter (·.kind = .elifClause)).map w.ofSyntax =
      (cs.filter (·.kind = .elifClause)).map fun c => w.branch + w.ofFlows (Flow.ofNodes c.children) := by
    apply List.map_congr_left
    intro c member
    obtain ⟨child, elif⟩ := by simpa using member
    rw [agree c child, Flow.ofNode_of_clause (.inl elif), elif]
    simp [ofClause, Kind.statement?, ofKind, ofShape]
  have orelse : (cs.filter (·.kind = .elseClause)).map w.ofSyntax =
      (cs.filter (·.kind = .elseClause)).map fun c => w.ofFlows (Flow.ofNodes c.children) := by
    apply List.map_congr_left
    intro c member
    obtain ⟨child, orelse⟩ := by simpa using member
    rw [agree c child, Flow.ofNode_of_clause (.inr orelse), orelse]
    simp [ofClause, Kind.statement?, ofShape]
  have once : cs.countP (·.kind = .elseClause) ≤ 1 := shaped.oneElse kind
  rw [Flow.fold_clauses, ofSyntax_mk, Flow.sum_parts _ _ idle, head, elifs, orelse,
    Flow.sum_filter_of_countP_le_one _ once, kind]
  simp only [ofFlow_node, ofFlows_append, ofFlows_map, ofFlows_continuation, ofKind, ofShape,
    Flow.headParts, Flow.elifParts, Flow.elseParts?, List.map_map, Option.map_map, Function.comp_def]
  omega

/-- The clauses of an exception block count what its shape says. -/
theorem sum_ofClause_block {clauses : List Kind} (minds : w.Minds clauses) {l : Label} {cs : List Node}
    (shaped : (Node.mk l cs).Shaped clauses) (kind : l.kind = .tryStatement) :
    (cs.map (w.ofClause ·.kind)).sum = w.ofShape (Flow.blockShape cs) := by
  have each : ∀ c ∈ cs, w.ofClause c.kind =
      w.clause * ((if Flow.isHandler c.kind then 1 else 0) + if c.kind = .finallyClause then 1 else 0) := by
    intro c child
    by_cases elif : c.kind = .elifClause
    · rw [ofClause_elsewhere minds shaped child (by simp [elif, kind, Kind.statement?]), elif]
      simp [Flow.isHandler]
    · simp [ofClause_eq, elif]
  simp only [Flow.blockShape, ofShape]
  clear minds shaped
  induction cs with
  | nil => simp
  | cons c rest ih =>
    obtain ⟨first, others⟩ := List.forall_mem_cons.mp each
    rw [List.map_cons, List.sum_cons, ih others, first, List.countP_cons, List.countP_cons]
    simp only [decide_eq_true_eq, Nat.mul_add]
    omega

theorem agrees {clauses : List Kind} (minds : w.Minds clauses) (n : Node)
    (shaped : ∀ m ∈ n.nodes, m.Shaped clauses) : w.Agrees n := by
  induction n using Node.induct with
  | mk l cs ih =>
    have own := shaped _ (Node.self_mem_nodes _)
    have agree : ∀ c ∈ cs, w.Agrees c := fun c child =>
      ih c child fun m below => shaped m (Node.mem_nodes_of_child child below)
    have bare : ∀ c ∈ cs, c.Bare := fun c child =>
      (shaped c (Node.mem_nodes_of_child child c.self_mem_nodes)).bare
    have sum := sum_ofSyntax agree bare
    rw [Agrees, Node.kind_mk]
    obtain ⟨kind, flow⟩ | ⟨kind, flow⟩ | ⟨kind, flow⟩ | ⟨kind, flow⟩ | ⟨kind, flow⟩ := Flow.ofNode_cases l cs
    · rw [flow, ofSyntax_conditional minds agree own bare kind, kind]
      simp [ofClause, Kind.statement?]
    · have notClause := sum_ofClause_of_ne minds own (by obtain h | h := kind <;> simp [h])
        (by obtain h | h := kind <;> simp [h])
      rw [flow, ofSyntax_mk, sum, notClause]
      obtain h | h := kind <;> simp [h, ofClause, Kind.statement?, ofKind, ofShape]
    · have notClause := ofClause_of_ne minds own (by rw [kind]; decide) (by rw [kind]; decide)
      have children : cs.map w.ofSyntax = cs.map fun c => w.ofFlow (Flow.ofNode c) :=
        List.map_congr_left fun c child => by rw [agree c child, notClause c child, Nat.zero_add]
      have below : ∀ c ∈ cs, ∀ m ∈ c.nodes, m.Shaped clauses := fun c child m below =>
        shaped m (Node.mem_nodes_of_child child below)
      rw [flow, ofSyntax_mk, children, ofFlow_node, ofFlow_operation below (own.operands kind), kind]
      simp [ofClause, Kind.statement?, ofKind]
    · rw [flow, ofSyntax_mk, sum, sum_ofClause_block minds own kind, kind]
      simp [ofClause, Kind.statement?, ofKind]
    · have notClause := sum_ofClause_of_ne minds own (by rintro h; simp [h] at kind)
        (by rintro h; simp [h] at kind)
      rw [flow, ofSyntax_mk, sum, notClause, w.ofKind_eq_ofClause kind]
      simp [ofShape]

/-- Syntax and the flow made of it count the same. -/
theorem ofSyntax_eq_ofFlow {clauses : List Kind} (minds : w.Minds clauses) {t : Node}
    (grammatical : t.Grammatical clauses) : w.ofSyntax t = w.ofFlow (Flow.ofNode t) := by
  have root : w.ofClause t.kind = 0 :=
    Decidable.byContradiction fun counted => grammatical.root (minds t.kind counted)
  rw [agrees minds t grammatical.shaped, root, Nat.zero_add]

/-- Counting one for certain kinds is counting the nodes of these kinds. -/
theorem ofSyntax_eq_countP {kinds : List Kind} (one : ∀ k, w.ofKind k = if k ∈ kinds then 1 else 0) (t : Node) :
    w.ofSyntax t = t.nodes.countP (·.kind ∈ kinds) := by
  simp only [ofSyntax, one]
  induction t.nodes with
  | nil => rfl
  | cons n rest ih => simp [ih, List.countP_cons, Nat.add_comm]

end Tally

end CodeAudit
