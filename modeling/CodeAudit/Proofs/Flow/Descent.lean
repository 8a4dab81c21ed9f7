import CodeAudit.Proofs.Flow.Height
import Mathlib.Order.Bounds.Defs

/-! The deepest nesting, read off the syntax as the dearest way down. Clauses of a conditional are siblings there, so
that the place of a clause among the others is paid for when a way passes into it. -/
namespace CodeAudit.Flow

open Syntax

/-- How many of the given nodes are `elif` clauses. -/
def elifs (cs : List Node) : Nat :=
  cs.countP (·.kind = .elifClause)

/-- What a way down pays for a node that it comes to. -/
def entering : Kind → Nat
  | .ifStatement | .forStatement | .whileStatement => 1
  | _ => 0

/-- What it pays besides for passing from a node into the child `c`, which stands between the given siblings. -/
def passing (parent : Kind) (before : List Node) (c : Node) (after : List Node) : Nat :=
  match parent, c.kind with
  | .ifStatement, .elifClause => elifs before + 1
  | .ifStatement, .elseClause => elifs (before ++ after)
  | _, _ => 0

/-- A way from a node down to itself or to a node below it, and all that is paid on it. -/
inductive Descent : Node → Nat → Prop
  | stay (l : Label) (cs : List Node) : Descent (.mk l cs) (entering l.kind)
  | down (l : Label) {before after : List Node} {c : Node} {cost : Nat} (below : Descent c cost) :
      Descent (.mk l (before ++ c :: after)) (entering l.kind + (passing l.kind before c after + cost))

/-- The most that is paid below a node of the given kind, when the height of each child is what is paid from there. -/
structure Tops (parent : Kind) (cs : List Node) (most : Nat) : Prop where
  bound : ∀ before c after, cs = before ++ c :: after → passing parent before c after + (ofNode c).height ≤ most
  attained : most = 0 ∨
    ∃ before c after, cs = before ++ c :: after ∧ passing parent before c after + (ofNode c).height = most

theorem passing_of_ne {parent : Kind} (notIf : parent ≠ .ifStatement) (before : List Node) (c : Node)
    (after : List Node) : passing parent before c after = 0 := by
  unfold passing
  split <;> simp_all

theorem passing_elif (before after : List Node) {c : Node} (elif : c.kind = .elifClause) :
    passing .ifStatement before c after = elifs before + 1 := by
  simp [passing, elif]

theorem passing_else (before after : List Node) {c : Node} (orelse : c.kind = .elseClause) :
    passing .ifStatement before c after = elifs (before ++ c :: after) := by
  simp [passing, elifs, orelse]

theorem passing_of_head (before after : List Node) {c : Node} (elif : c.kind ≠ .elifClause)
    (orelse : c.kind ≠ .elseClause) : passing .ifStatement before c after = 0 := by
  unfold passing
  split <;> simp_all

/-- Passing is free where there is no conditional. -/
theorem tops_of_ne {parent : Kind} (notIf : parent ≠ .ifStatement) {cs : List Node} {most : Nat}
    (bound : ∀ c ∈ cs, (ofNode c).height ≤ most) (attained : most = 0 ∨ ∃ c ∈ cs, (ofNode c).height = most) :
    Tops parent cs most where
  bound before c after split := by
    rw [passing_of_ne notIf, Nat.zero_add]
    exact bound c (by simp [split])
  attained := by
    refine attained.imp id ?_
    rintro ⟨c, member, most⟩
    obtain ⟨before, after, split⟩ := List.append_of_mem member
    exact ⟨before, c, after, split, by rw [passing_of_ne notIf, Nat.zero_add, most]⟩

theorem height_of_not_counts {c : Node} (bare : c.Bare) (none : counts c.kind = false) : (ofNode c).height = 0 := by
  rw [ofNode_of_leaf (bare none) (isExtra_of_not_counts none)]
  simp [Shape.isDecision]

theorem tops_ofNodes {parent : Kind} (notIf : parent ≠ .ifStatement) {cs : List Node} (bare : ∀ c ∈ cs, c.Bare) :
    Tops parent cs (heights (ofNodes cs)) := by
  rw [ofNodes_eq]
  refine tops_of_ne notIf ?_ ?_
  · intro c child
    by_cases part : counts c.kind
    · exact height_le_heights (List.mem_map_of_mem (List.mem_filter.mpr ⟨child, part⟩))
    · rw [height_of_not_counts (bare c child) (by simpa using part)]
      exact Nat.zero_le _
  · obtain zero | ⟨t, member, most⟩ := heights_attained ((cs.filter (counts ·.kind)).map ofNode)
    · exact .inl zero
    · obtain ⟨c, counted, rfl⟩ := List.mem_map.mp member
      exact .inr ⟨c, (List.mem_filter.mp counted).1, most.symm⟩

/-- A chain is as high with an operand's own chain taken in as without. -/
theorem heights_operand (op : Option Kind) (x : Node) : heights (operand op x) = (ofNode x).height := by
  obtain single | ⟨-, chain⟩ := operand_cases op x
  · simp [single]
  · simp [chain, Shape.isDecision]

theorem tops_chain {parent : Kind} (notIf : parent ≠ .ifStatement) {cs : List Node} (operands : Node.Operands cs)
    (op : Option Kind) : Tops parent cs (heights (chain op cs)) := by
  obtain ⟨x, y, others, chain, perm, leaves⟩ := chain_of_operands operands op
  rw [chain, heights_append, heights_operand, heights_operand]
  refine tops_of_ne notIf ?_ ?_
  · intro c child
    rcases List.mem_cons.mp (perm.mem_iff.mp child) with rfl | later
    · exact Nat.le_max_left ..
    rcases List.mem_cons.mp later with rfl | other
    · exact Nat.le_max_right ..
    · rw [ofNode_of_leaf (leaves c other).1 (leaves c other).2]
      simp [Shape.isDecision]
  · refine .inr ?_
    by_cases first : (ofNode y).height ≤ (ofNode x).height
    · exact ⟨x, perm.mem_iff.mpr (by simp), (Nat.max_eq_left first).symm⟩
    · exact ⟨y, perm.mem_iff.mpr (by simp), (Nat.max_eq_right (by omega)).symm⟩

@[simp] theorem heights_continuation_cons (orelse : Option (List Flow)) (parts : List Flow)
    (rest : List (List Flow)) : heights (continuation orelse (parts :: rest)) =
      1 + max (heights parts) (heights (continuation orelse rest)) := by
  simp [continuation, Shape.isDecision]

/-- A clause lies below those before it and is a decision of its own. -/
theorem le_heights_continuation (orelse : Option (List Flow)) (before : List (List Flow)) (parts : List Flow)
    (after : List (List Flow)) :
    before.length + 1 + heights parts ≤ heights (continuation orelse (before ++ parts :: after)) := by
  induction before with
  | nil =>
    rw [List.nil_append, heights_continuation_cons, List.length_nil]
    omega
  | cons first before ih =>
    rw [List.cons_append, heights_continuation_cons, List.length_cons]
    omega

/-- The `else` part lies below all clauses. -/
theorem le_heights_continuation_orelse (parts : List Flow) (clauses : List (List Flow)) :
    clauses.length + heights parts ≤ heights (continuation (some parts) clauses) := by
  induction clauses with
  | nil => simp [continuation]
  | cons first rest ih =>
    rw [heights_continuation_cons, List.length_cons]
    omega

theorem heights_continuation_attained (orelse : Option (List Flow)) (clauses : List (List Flow)) :
    heights (continuation orelse clauses) = 0 ∨
    (∃ before parts after, clauses = before ++ parts :: after ∧
      before.length + 1 + heights parts = heights (continuation orelse clauses)) ∨
    ∃ parts, orelse = some parts ∧ clauses.length + heights parts = heights (continuation orelse clauses) := by
  induction clauses with
  | nil =>
    cases orelse with
    | none => simp [continuation]
    | some parts => simp [continuation, Shape.isDecision]
  | cons first rest ih =>
    refine .inr ?_
    rw [heights_continuation_cons]
    by_cases here : heights (continuation orelse rest) ≤ heights first
    · refine .inl ⟨[], first, rest, rfl, ?_⟩
      rw [Nat.max_eq_left here]
      rfl
    rw [Nat.max_eq_right (by omega)]
    obtain zero | ⟨before, parts, after, split, most⟩ | ⟨parts, last, most⟩ := ih
    · omega
    · refine .inl ⟨first :: before, parts, after, by simp [split], ?_⟩
      rw [← most, List.length_cons]
      omega
    · refine .inr ⟨parts, last, ?_⟩
      rw [← most, List.length_cons]
      omega

/-- A place among the kept members is a place in the whole list. -/
theorem split_of_filter {α : Type} {p : α → Bool} {xs before after : List α} {x : α}
    (split : xs.filter p = before ++ x :: after) :
    ∃ front back, xs = front ++ x :: back ∧ front.filter p = before ∧ p x = true := by
  obtain ⟨first, second, rfl, kept, rest⟩ := List.filter_eq_append_iff.mp split
  obtain ⟨gap, back, rfl, dropped, holds, -⟩ := List.filter_eq_cons_iff.mp rest
  have none : gap.filter p = [] := List.filter_eq_nil_iff.mpr dropped
  exact ⟨first ++ gap, back, by simp, by simp [kept, none], holds⟩

theorem height_of_clause {c : Node} (clause : c.kind = .elifClause ∨ c.kind = .elseClause) :
    (ofNode c).height = heights (ofNodes c.children) := by
  rw [ofNode_of_clause clause]
  simp [Shape.isDecision]

theorem length_elifParts (cs : List Node) : (elifParts cs).length = elifs cs := by
  rw [elifParts, elifs, List.countP_eq_length_filter, List.length_map]

theorem getLast?_filter_of_countP_le_one {α : Type} {p : α → Bool} {xs : List α} {x : α} (once : xs.countP p ≤ 1)
    (member : x ∈ xs.filter p) : (xs.filter p).getLast? = some x := by
  rw [List.countP_eq_length_filter] at once
  generalize xs.filter p = kept at *
  match kept with
  | [] => simp at member
  | [y] => simpa [eq_comm] using member
  | _ :: _ :: _ => simp at once

/-- What is paid for a clause and below it is found in the way out of the clauses before it. -/
theorem passing_elif_le (before after : List Node) {c : Node} (elif : c.kind = .elifClause) :
    passing .ifStatement before c after + (ofNode c).height ≤
      heights (continuation (elseParts? (before ++ c :: after)) (elifParts (before ++ c :: after))) := by
  have clauses : elifParts (before ++ c :: after) = elifParts before ++ ofNodes c.children :: elifParts after := by
    simp [elifParts, elif]
  have below := le_heights_continuation (elseParts? (before ++ c :: after)) (elifParts before)
    (ofNodes c.children) (elifParts after)
  rw [length_elifParts] at below
  rw [clauses, height_of_clause (.inl elif), passing_elif before after elif]
  exact below

/-- What is paid for the `else` part and below it is found in the way out of the last clause. -/
theorem passing_else_le {before after : List Node} {c : Node} (orelse : c.kind = .elseClause)
    (once : (before ++ c :: after).countP (·.kind = .elseClause) ≤ 1) :
    passing .ifStatement before c after + (ofNode c).height ≤
      heights (continuation (elseParts? (before ++ c :: after)) (elifParts (before ++ c :: after))) := by
  have last := getLast?_filter_of_countP_le_one once (x := c) (by simp [orelse])
  have below := le_heights_continuation_orelse (ofNodes c.children) (elifParts (before ++ c :: after))
  rw [length_elifParts] at below
  rw [elseParts?, last, Option.map_some, height_of_clause (.inr orelse), passing_else before after orelse]
  exact below

/-- What lies deepest in the clauses is paid for on the way into one of them. -/
theorem continuation_attained (cs : List Node) : heights (continuation (elseParts? cs) (elifParts cs)) = 0 ∨
    ∃ before c after, cs = before ++ c :: after ∧ passing .ifStatement before c after + (ofNode c).height =
      heights (continuation (elseParts? cs) (elifParts cs)) := by
  obtain zero | ⟨before, parts, after, split, most⟩ | ⟨parts, last, most⟩ :=
    heights_continuation_attained (elseParts? cs) (elifParts cs)
  · exact .inl zero
  · obtain ⟨earlier, later, kept, rfl, rest⟩ := List.map_eq_append_iff.mp split
    obtain ⟨c, final, rfl, rfl, -⟩ := List.map_eq_cons_iff.mp rest
    obtain ⟨front, back, whole, rfl, elif⟩ := split_of_filter kept
    have clause : c.kind = .elifClause := by simpa using elif
    refine .inr ⟨front, c, back, whole, ?_⟩
    rw [← most, height_of_clause (.inl clause), passing_elif front back clause]
    exact congrArg (· + 1 + _) (length_elifParts front).symm
  · obtain ⟨c, found, rfl⟩ := Option.map_eq_some_iff.mp last
    obtain ⟨child, is⟩ := List.mem_filter.mp (List.mem_of_getLast? found)
    obtain ⟨before, after, split⟩ := List.append_of_mem child
    have clause : c.kind = .elseClause := by simpa using is
    refine .inr ⟨before, c, after, split, ?_⟩
    rw [← most, height_of_clause (.inr clause), passing_else before after clause, ← split, length_elifParts]

/-- The parts of a conditional statement with one `else` part at most. -/
theorem tops_conditional {cs : List Node} (bare : ∀ c ∈ cs, c.Bare)
    (once : cs.countP (·.kind = .elseClause) ≤ 1) :
    Tops .ifStatement cs (heights (headParts cs ++ continuation (elseParts? cs) (elifParts cs))) := by
  rw [heights_append]
  constructor
  · rintro before c after rfl
    by_cases elif : c.kind = .elifClause
    · exact Nat.le_trans (passing_elif_le before after elif) (Nat.le_max_right ..)
    by_cases orelse : c.kind = .elseClause
    · exact Nat.le_trans (passing_else_le orelse once) (Nat.le_max_right ..)
    rw [passing_of_head before after elif orelse, Nat.zero_add]
    by_cases part : counts c.kind
    · have head : c ∈ (before ++ c :: after).filter isHead := by
        simp [isHead, part, elif, orelse]
      exact Nat.le_trans (height_le_heights (List.mem_map_of_mem head)) (Nat.le_max_left ..)
    · rw [height_of_not_counts (bare c (by simp)) (by simpa using part)]
      exact Nat.zero_le _
  · by_cases first : heights (continuation (elseParts? cs) (elifParts cs)) ≤ heights (headParts cs)
    · rw [Nat.max_eq_left first]
      refine (heights_attained (headParts cs)).imp id ?_
      rintro ⟨t, member, most⟩
      obtain ⟨c, kept, rfl⟩ := List.mem_map.mp member
      simp only [List.mem_filter, isHead, Bool.and_eq_true, bne_iff_ne] at kept
      obtain ⟨before, after, split⟩ := List.append_of_mem kept.1
      refine ⟨before, c, after, split, ?_⟩
      rw [passing_of_head before after kept.2.1.2 kept.2.2, Nat.zero_add, most]
    · rw [Nat.max_eq_right (by omega)]
      exact continuation_attained cs

/-- What is paid at most on a way down is the height of the flow. -/
def Measured (n : Node) : Prop :=
  IsGreatest {cost | Descent n cost} (ofNode n).height

theorem measured_of_tops {l : Label} {cs : List Node} {most : Nat} (below : ∀ c ∈ cs, Measured c)
    (tops : Tops l.kind cs most) (height : (ofNode (.mk l cs)).height = entering l.kind + most) :
    Measured (.mk l cs) := by
  rw [Measured, height]
  constructor
  · obtain zero | ⟨before, c, after, split, attained⟩ := tops.attained
    · rw [zero]
      exact .stay l cs
    · subst split
      rw [← attained]
      exact .down l (below c (by simp)).1
  · intro cost descent
    cases descent with
    | stay => exact Nat.le_add_right _ _
    | @down _ before after c cost descent =>
      have paid : cost ≤ (ofNode c).height := (below c (by simp)).2 descent
      have bound := tops.bound before c after rfl
      omega

theorem measured {clauses : List Kind} (n : Node) (shaped : ∀ m ∈ n.nodes, m.Shaped clauses) : Measured n := by
  induction n using Node.induct with
  | mk l cs ih =>
    have own := shaped _ (Node.self_mem_nodes _)
    have bare : ∀ c ∈ cs, c.Bare := fun c child =>
      (shaped c (Node.mem_nodes_of_child child c.self_mem_nodes)).bare
    have below : ∀ c ∈ cs, Measured c := fun c child =>
      ih c child fun m below => shaped m (Node.mem_nodes_of_child child below)
    obtain ⟨kind, flow⟩ | ⟨kind, flow⟩ | ⟨kind, flow⟩ | ⟨kind, flow⟩ | ⟨kind, flow⟩ := ofNode_cases l cs
    · refine measured_of_tops below (kind ▸ tops_conditional bare (own.oneElse kind)) ?_
      rw [flow, fold_clauses, kind]
      simp [Shape.isDecision, entering]
    · refine measured_of_tops below (tops_ofNodes (by obtain h | h := kind <;> simp [h]) bare) ?_
      rw [flow]
      obtain h | h := kind <;> simp [h, Shape.isDecision, entering]
    · refine measured_of_tops below (tops_chain (by simp [kind]) (own.operands kind) (operator? cs)) ?_
      rw [flow, kind]
      simp [Shape.isDecision, entering]
    · refine measured_of_tops below (tops_ofNodes (by simp [kind]) bare) ?_
      rw [flow, kind]
      simp [blockShape, Shape.isDecision, entering]
    · refine measured_of_tops below (tops_ofNodes (by rintro h; simp [h] at kind) bare) ?_
      have free : entering l.kind = 0 := by
        unfold entering
        split <;> simp_all
      rw [flow, free]
      simp [Shape.isDecision]

/-- The kinds of syntax that nest. -/
def nestingKinds : List Kind :=
  [.ifStatement, .elifClause, .forStatement, .whileStatement]

/-- The nesting of flow is that of the syntax it was made of: all conditionals, clauses and loops are counted, and as
deep as the dearest way down is the deepest of them. -/
theorem nesting_ofNode (t : Node) (grammatical : t.Grammatical [.elifClause]) :
    ((ofNode t).nesting 0).decisions = t.nodes.countP (·.kind ∈ nestingKinds) ∧
      IsGreatest {cost | Descent t cost} ((ofNode t).nesting 0).deepest := by
  have minds : branchTally.Minds [.elifClause] := by
    intro k counted
    unfold Tally.ofClause Kind.statement? at counted
    split at counted <;> simp_all [Tally.ofKind, branchTally]
  have one (k : Kind) : branchTally.ofKind k = if k ∈ nestingKinds then 1 else 0 := by
    unfold Tally.ofKind
    split <;> simp_all [branchTally, nestingKinds]
  rw [nesting_eq, Nat.zero_add, ← Tally.ofSyntax_eq_ofFlow minds grammatical, Tally.ofSyntax_eq_countP one]
  exact ⟨rfl, measured t grammatical.shaped⟩

/-- A loop in an `if` that has two clauses, and a loop around an `if` in its `else` part: the latter is deeper. -/
theorem nesting_of_two_clauses :
    let innermost : Node := .mk { kind := .whileStatement } [.mk { kind := .block } [.mk { kind := .ifStatement } []]]
    let t : Node := .mk { kind := .functionDefinition } [.mk { kind := .ifStatement } [.mk { kind := .ifWord } [],
      .mk { kind := .forStatement } [], .mk { kind := .elifClause } [.mk { kind := .forStatement } []],
      .mk { kind := .comment } [], .mk { kind := .elifClause } [], .mk { kind := .elseClause } [innermost]]]
    t.Grammatical [.elifClause] ∧ ((ofNode t).nesting 0).decisions = t.nodes.countP (·.kind ∈ nestingKinds) ∧
      IsGreatest {cost | Descent t cost} 5 := by
  exact ⟨by decide, nesting_ofNode _ (by decide)⟩

end CodeAudit.Flow
