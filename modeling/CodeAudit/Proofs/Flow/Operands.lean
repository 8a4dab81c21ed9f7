import CodeAudit.Proofs.Flow.Congruence
import Mathlib.Data.List.Flatten
import Mathlib.Data.List.Nodup

/-! Chains of operands. Operations of one operator that are operands of each other are one chain, however they are put
into each other; its operands are counted once each and keep their order. -/
namespace CodeAudit

namespace Syntax

/-- The sides of a boolean operation. -/
inductive Side where
  | left
  | right
deriving DecidableEq

def Side.field : Side → Field
  | left => .left
  | right => .right

/-- Of two ways from one operation down to operands the first turns left where they part. -/
def Precedes (p q : List Side) : Prop :=
  ∃ front p' q', p = front ++ .left :: p' ∧ q = front ++ .right :: q'

theorem Precedes.cons {p q : List Side} (precedes : Precedes p q) (s : Side) : Precedes (s :: p) (s :: q) := by
  obtain ⟨front, p', q', rfl, rfl⟩ := precedes
  exact ⟨s :: front, p', q', rfl, rfl⟩

theorem precedes_sides (p q : List Side) : Precedes (.left :: p) (.right :: q) :=
  ⟨[], p, q, rfl, rfl⟩

namespace Node

/-- An operation of the same operator as another one. -/
def Joins (x n : Node) : Prop :=
  x.kind = .booleanOperator ∧ Flow.operator? x.children = Flow.operator? n.children

/-- The operations in the chain that begins at a node, each with the sides over which it is reached. -/
inductive Linked : Node → List Side → Node → Prop where
  | root (n : Node) : Linked n [] n
  | side {n x m : Node} {s : Side} {path : List Side} (operand : n.child? s.field = some x) (joins : x.Joins n)
      (linked : Linked x path m) : Linked n (s :: path) m

/-- The operands of a chain: those of its operations that do not join it themselves. -/
inductive IsOperand : Node → List Side → Node → Prop where
  | mk {n m x : Node} {s : Side} {path : List Side} (linked : Linked n path m) (operand : m.child? s.field = some x)
      (other : ¬ x.Joins m) : IsOperand n (path ++ [s]) x

/-- All operations and all operands of the chain that begins at a node, each once, the operands from left to right. -/
structure ChainOf (n : Node) (operations operands : List (List Side × Node)) : Prop where
  linked : ∀ p m, (p, m) ∈ operations ↔ n.Linked p m
  once : (operations.map Prod.fst).Nodup
  operand : ∀ p m, (p, m) ∈ operands ↔ n.IsOperand p m
  ordered : operands.Pairwise fun a b => Precedes a.1 b.1

/-- An operation with both operands. -/
structure Sided (n : Node) : Prop where
  left : (n.child? .left).isSome
  right : (n.child? .right).isSome

instance (n : Node) : Decidable n.Sided :=
  decidable_of_iff ((n.child? .left).isSome ∧ (n.child? .right).isSome)
    ⟨fun ⟨left, right⟩ => ⟨left, right⟩, fun ⟨left, right⟩ => ⟨left, right⟩⟩

/-- The left operand stands in front of the right one. -/
def LeftFirst (n : Node) : Prop :=
  ∀ x y, n.child? .left = some x → n.child? .right = some y → [x, y].Sublist n.children

theorem linked_iff {n m : Node} {p : List Side} : n.Linked p m ↔ (p = [] ∧ m = n) ∨
    ∃ s x, n.child? s.field = some x ∧ ∃ q, p = s :: q ∧ x.Joins n ∧ x.Linked q m := by
  constructor
  · rintro (_ | ⟨operand, joins, linked⟩)
    · exact .inl ⟨rfl, rfl⟩
    · exact .inr ⟨_, _, operand, _, rfl, joins, linked⟩
  · rintro (⟨rfl, rfl⟩ | ⟨s, x, operand, q, rfl, joins, linked⟩)
    · exact .root _
    · exact .side operand joins linked

/-- The operations of a chain stand within the one at which it begins. -/
theorem Linked.mem_nodes {n m : Node} {p : List Side} (linked : n.Linked p m) (operation : n.kind = .booleanOperator) :
    m ∈ n.nodes ∧ m.kind = .booleanOperator := by
  induction linked with
  | root n => exact ⟨self_mem_nodes n, operation⟩
  | @side n _ _ _ _ operand joins _ ih =>
    obtain ⟨below, kind⟩ := ih joins.1
    obtain ⟨l, cs⟩ := n
    exact ⟨mem_nodes_of_child (List.mem_of_find?_eq_some operand) below, kind⟩

theorem isOperand_iff {n m : Node} {p : List Side} : n.IsOperand p m ↔
    ∃ s x, n.child? s.field = some x ∧
      ∃ q, p = s :: q ∧ (x.Joins n ∧ x.IsOperand q m ∨ ¬ x.Joins n ∧ q = [] ∧ m = x) := by
  constructor
  · rintro ⟨_ | ⟨above, joins, linked⟩, operand, other⟩
    · exact ⟨_, _, operand, _, rfl, .inr ⟨other, rfl, rfl⟩⟩
    · exact ⟨_, _, above, _, rfl, .inl ⟨joins, linked, operand, other⟩⟩
  · rintro ⟨s, x, above, q, rfl, ⟨joins, linked, operand, other⟩ | ⟨other, rfl, rfl⟩⟩
    · exact .mk (.side above joins linked) operand other
    · have root : n.Linked [] n := .root _
      exact .mk root above other

/-- What holds on some side of an operation holds on the left or on the right. -/
theorem exists_side {n x y : Node} (left : n.child? .left = some x) (right : n.child? .right = some y)
    {P : Side → Node → Prop} : (∃ s z, n.child? s.field = some z ∧ P s z) ↔ P .left x ∨ P .right y := by
  constructor
  · rintro ⟨_ | _, z, operand, holds⟩
    · exact .inl (Option.some.inj (left.symm.trans operand) ▸ holds)
    · exact .inr (Option.some.inj (right.symm.trans operand) ▸ holds)
  · rintro (holds | holds)
    · exact ⟨.left, x, left, holds⟩
    · exact ⟨.right, y, right, holds⟩

end Node

end Syntax

namespace Flow

open Syntax Node

/-- What one side of an operation brings into its chain. -/
structure Arm (n x : Node) (s : Side) (operations operands : List (List Side × Node)) : Prop where
  linked : ∀ p m, (p, m) ∈ operations ↔ ∃ q, p = s :: q ∧ x.Joins n ∧ x.Linked q m
  once : (operations.map Prod.fst).Nodup
  operand : ∀ p m, (p, m) ∈ operands ↔
    ∃ q, p = s :: q ∧ (x.Joins n ∧ x.IsOperand q m ∨ ¬ x.Joins n ∧ q = [] ∧ m = x)
  ordered : operands.Pairwise fun a b => Precedes a.1 b.1
  flow : Flow.operand (operator? n.children) x = operands.map fun o => ofNode o.2
  count : operands.length = operations.length + 1
  text : (x.Joins n → ∀ p m, x.Linked p m → m.LeftFirst) → (operands.map Prod.snd).Sublist x.nodes

/-- What is known of a chain as a whole. -/
structure Laid (n : Node) (operations operands : List (List Side × Node)) : Prop extends
    ChainOf n operations operands where
  flow : chain (operator? n.children) n.children = operands.map fun o => ofNode o.2
  count : operands.length = operations.length + 1
  text : (∀ p m, n.Linked p m → m.LeftFirst) → (operands.map Prod.snd).Sublist n.nodes

theorem chain_of_sides {n x y : Node} (left : n.child? .left = some x) (right : n.child? .right = some y)
    (op : Option Kind) : chain op n.children = operand op x ++ operand op y := by
  rw [child?] at left right
  rw [chain, operandsAt_eq, operandsAt_eq, left, right]
  rfl

/-- What is reached from an operation over one side more. -/
def beyond (s : Side) (o : List Side × Node) : List Side × Node :=
  (s :: o.1, o.2)

theorem mem_map_beyond {s : Side} {os : List (List Side × Node)} {p : List Side} {m : Node} :
    (p, m) ∈ os.map (beyond s) ↔ ∃ q, p = s :: q ∧ (q, m) ∈ os := by
  simp only [List.mem_map, beyond, Prod.exists, Prod.mk.injEq]
  constructor
  · rintro ⟨q, m, member, rfl, rfl⟩
    exact ⟨q, rfl, member⟩
  · rintro ⟨q, rfl, member⟩
    exact ⟨q, m, member, rfl, rfl⟩

theorem map_fst_beyond (s : Side) (os : List (List Side × Node)) :
    (os.map (beyond s)).map Prod.fst = (os.map Prod.fst).map (s :: ·) := by
  rw [List.map_map, List.map_map]
  rfl

theorem map_snd_beyond {α : Type} (f : Node → α) (s : Side) (os : List (List Side × Node)) :
    ((os.map (beyond s)).map fun o => f o.2) = os.map fun o => f o.2 := by
  rw [List.map_map]
  rfl

/-- An operand that joins the chain brings its own chain into it. -/
theorem arm_of_joins {n x : Node} (joins : x.Joins n) {operations operands : List (List Side × Node)}
    (laid : Laid x operations operands) (s : Side) :
    Arm n x s (operations.map (beyond s)) (operands.map (beyond s)) where
  linked p m := by simp only [mem_map_beyond, laid.linked, joins, true_and]
  once := by
    rw [map_fst_beyond]
    exact laid.once.map List.cons_injective
  operand p m := by simp only [mem_map_beyond, laid.operand, joins, true_and, not_true, false_and, or_false]
  ordered := List.pairwise_map.mpr (laid.ordered.imp fun precedes => precedes.cons s)
  flow := by
    rw [map_snd_beyond, ← laid.flow, joins.2, Flow.operand, if_pos (by simp [joins.1, joins.2])]
  count := by rw [List.length_map, List.length_map, laid.count]
  text first := by
    have same : (operands.map (beyond s)).map Prod.snd = operands.map Prod.snd := map_snd_beyond id s operands
    rw [same]
    exact laid.text (first joins)

/-- Any other operand stands for itself. -/
theorem arm_of_other {n x : Node} (other : ¬ x.Joins n) (s : Side) : Arm n x s [] [([s], x)] where
  linked p m := by simp [other]
  once := .nil
  operand p m := by
    simp only [List.mem_singleton, Prod.mk.injEq, other, false_and, not_false_eq_true, true_and, false_or]
    constructor
    · rintro ⟨rfl, rfl⟩
      exact ⟨[], rfl, rfl, rfl⟩
    · rintro ⟨q, rfl, rfl, rfl⟩
      exact ⟨rfl, rfl⟩
  ordered := List.pairwise_singleton ..
  flow := by
    rw [Flow.operand, if_neg (by simpa [Joins] using other)]
    rfl
  count := rfl
  text _ := by simpa using self_mem_nodes x

/-- The chain of an operation is made of what its two sides bring into it. -/
theorem laid_of_arms {n x y : Node} (left : n.child? .left = some x) (right : n.child? .right = some y)
    {fromLeft operands fromRight operands' : List (List Side × Node)} (first : Arm n x .left fromLeft operands)
    (second : Arm n y .right fromRight operands') :
    Laid n (([], n) :: (fromLeft ++ fromRight)) (operands ++ operands') where
  linked p m := by
    rw [linked_iff, exists_side left right, List.mem_cons, List.mem_append, first.linked, second.linked, Prod.mk.injEq]
  once := by
    have head {x : Node} {s : Side} {operations operands : List (List Side × Node)}
        (arm : Arm n x s operations operands) {p : List Side} (member : p ∈ operations.map Prod.fst) :
        p.head? = some s := by
      obtain ⟨⟨p, m⟩, operation, rfl⟩ := List.mem_map.mp member
      obtain ⟨q, rfl, -⟩ := (arm.linked p m).mp operation
      rfl
    rw [List.map_cons, List.map_append, List.nodup_cons, List.nodup_append]
    refine ⟨fun member => ?_, first.once, second.once, fun p front q back same => ?_⟩
    · rcases List.mem_append.mp member with front | back
      · exact absurd (head first front) nofun
      · exact absurd (head second back) nofun
    · have sides := (head first front).symm.trans (same ▸ head second back)
      exact absurd sides (by decide)
  operand p m := by rw [isOperand_iff, exists_side left right, List.mem_append, first.operand, second.operand]
  ordered := by
    refine List.pairwise_append.mpr ⟨first.ordered, second.ordered, ?_⟩
    rintro ⟨p, m⟩ front ⟨p', m'⟩ back
    obtain ⟨q, rfl, -⟩ := (first.operand p m).mp front
    obtain ⟨q', rfl, -⟩ := (second.operand p' m').mp back
    exact precedes_sides q q'
  flow := by rw [chain_of_sides left right, first.flow, second.flow, List.map_append]
  count := by
    simp only [List.length_append, List.length_cons, first.count, second.count]
    omega
  text inOrder := by
    have fromLeft := first.text fun joins p m linked => inOrder (.left :: p) m (.side left joins linked)
    have fromRight := second.text fun joins p m linked => inOrder (.right :: p) m (.side right joins linked)
    have sides := (inOrder [] n (.root n) x y left right).flatMap nodes
    rw [List.flatMap_cons, List.flatMap_singleton] at sides
    obtain ⟨l, cs⟩ := n
    rw [List.map_append, nodes_mk]
    exact ((fromLeft.append fromRight).trans sides).cons _

/-- Where no operation lacks an operand there is a chain. -/
theorem laid (n : Node) (sided : ∀ p m, n.Linked p m → m.Sided) :
    ∃ operations operands, Laid n operations operands := by
  induction n using Node.induct with
  | mk l cs ih =>
    have arm {x : Node} {s : Side} (operand : child? (.mk l cs) s.field = some x) :
        ∃ operations operands, Arm (.mk l cs) x s operations operands := by
      by_cases joins : x.Joins (.mk l cs)
      · have child : x ∈ cs := List.mem_of_find?_eq_some operand
        obtain ⟨operations, operands, laid⟩ := ih x child fun _ m linked => sided _ m (.side operand joins linked)
        exact ⟨_, _, arm_of_joins joins laid s⟩
      · exact ⟨_, _, arm_of_other joins s⟩
    obtain ⟨hasLeft, hasRight⟩ := sided [] _ (.root _)
    obtain ⟨x, left⟩ := Option.isSome_iff_exists.mp hasLeft
    obtain ⟨y, right⟩ := Option.isSome_iff_exists.mp hasRight
    obtain ⟨_, _, first⟩ := arm (s := .left) left
    obtain ⟨_, _, second⟩ := arm (s := .right) right
    exact ⟨_, _, laid_of_arms left right first second⟩

end Flow

/-! ### Other associations -/

namespace Syntax.Node

/-- A boolean operation between two operands, whatever else stands there. -/
structure Operation (op : Option Kind) (x y n : Node) : Prop where
  kind : n.kind = .booleanOperator
  operator : Flow.operator? n.children = op
  left : n.child? .left = some x
  right : n.child? .right = some y

/-- Pieces of syntax that differ in how chains of one operator are put into each other, anywhere and any number of
times. The operands may get other fields and other places in the text. -/
inductive Reassociated : Node → Node → Prop where
  | rotate {op : Option Kind} {a b c ab n a' b' c' bc n' : Node} (outer : Operation op ab c n)
      (inner : Operation op a b ab) (outer' : Operation op a' bc n') (inner' : Operation op b' c' bc)
      (first : Reassociated a a') (second : Reassociated b b') (third : Reassociated c c') : Reassociated n n'
  | relabel {l m : Label} {cs : List Node} (kind : l.kind = m.kind) : Reassociated (.mk l cs) (.mk m cs)
  | within {l : Label} (front back : List Node) {c d : Node} (field : c.label.field = d.label.field)
      (below : Reassociated c d) : Reassociated (.mk l (front ++ c :: back)) (.mk l (front ++ d :: back))
  | symm {t u : Node} (back : Reassociated t u) : Reassociated u t
  | trans {t u v : Node} (first : Reassociated t u) (second : Reassociated u v) : Reassociated t v

end Syntax.Node

namespace Flow

open Syntax Node

variable {op : Option Kind} {n x y t u : Node}

theorem ofNode_of_operation (operation : Operation op x y n) :
    ofNode n = node (.boolean (operand op x ++ operand op y).length) (operand op x ++ operand op y) := by
  obtain ⟨l, cs⟩ := n
  have kind : l.kind = .booleanOperator := operation.kind
  have operator : operator? cs = op := operation.operator
  rw [ofNode, kind, operator, ← chain_of_sides operation.left operation.right op]
  rfl

theorem operand_of_operation (operation : Operation op x y n) (op' : Option Kind) :
    operand op' n = if op = op' then operand op x ++ operand op y else [ofNode n] := by
  rw [operand, operation.kind, operation.operator]
  by_cases same : op = op'
  · subst same
    simp only [decide_true, Bool.and_true, if_true, chain_of_sides operation.left operation.right]
  · simp [same]

/-- Pieces of syntax that have the same flow and bring the same into every chain. -/
structure Alike (t u : Node) : Prop where
  kind : u.kind = t.kind
  flow : ofNode u = ofNode t
  operand : ∀ op, operand op u = operand op t

theorem Alike.part (alike : Alike t u) (field : u.label.field = t.label.field) : part u = part t := by
  rw [Flow.part, Flow.part, alike.kind, field, alike.flow, funext alike.operand]

theorem alike_of_reassociated (reassociated : Reassociated t u) : Alike t u := by
  induction reassociated with
  | rotate outer inner outer' inner' _ _ _ first second third =>
    have flow := ofNode_of_operation outer
    have flow' := ofNode_of_operation outer'
    rw [operand_of_operation inner, if_pos rfl, List.append_assoc] at flow
    rw [operand_of_operation inner', if_pos rfl, first.operand, second.operand, third.operand, ← flow] at flow'
    refine ⟨outer'.kind.trans outer.kind.symm, flow', fun op => ?_⟩
    rw [operand_of_operation outer, operand_of_operation outer', operand_of_operation inner,
      operand_of_operation inner', if_pos rfl, if_pos rfl, first.operand, second.operand, third.operand, flow',
      List.append_assoc]
  | relabel kind => exact ⟨kind.symm, ofNode_congr kind.symm rfl, operand_congr kind.symm rfl⟩
  | within front back field _ ih =>
    have same := parts_replace (ih.part field.symm) front back
    exact ⟨rfl, ofNode_congr rfl same, operand_congr rfl same⟩
  | symm _ ih => exact ⟨ih.kind.symm, ih.flow.symm, fun op => (ih.operand op).symm⟩
  | trans _ _ first second =>
    exact ⟨second.kind.trans first.kind, second.flow.trans first.flow,
      fun op => (second.operand op).trans (first.operand op)⟩

/-- A boolean operation becomes one node with the flows of the operands of its chain, from left to right and as in the
text. It counts one operand more than the chain has operations, and so at least two. How the operations of a chain are
put into each other does not matter. -/
theorem ofNode_chain :
    (∀ n : Node, n.kind = .booleanOperator → (∀ p m, n.Linked p m → m.Sided) →
      ∃ operations operands, n.ChainOf operations operands ∧
        ofNode n = node (.boolean operands.length) (operands.map fun o => ofNode o.2) ∧
        operands.length = operations.length + 1 ∧ 2 ≤ operands.length ∧
        ((∀ p m, n.Linked p m → m.LeftFirst) → (operands.map Prod.snd).Sublist n.nodes)) ∧
    ∀ t u : Node, Reassociated t u → ofNode u = ofNode t := by
  refine ⟨fun n operation sided => ?_, fun t u reassociated => (alike_of_reassociated reassociated).flow⟩
  obtain ⟨operations, operands, laid⟩ := laid n sided
  have root : ([], n) ∈ operations := (laid.linked [] n).mpr (.root n)
  have positive := List.length_pos_of_mem root
  have count := laid.count
  refine ⟨operations, operands, laid.toChainOf, ?_, count, by omega, laid.text⟩
  obtain ⟨l, cs⟩ := n
  have kind : l.kind = .booleanOperator := operation
  have flow : chain (operator? cs) cs = operands.map fun o => ofNode o.2 := laid.flow
  have length : operands.length = (chain (operator? cs) cs).length := by rw [flow, List.length_map]
  rw [ofNode, kind, ← flow, length]
  rfl

/-- A chain of three operands, one of them an operation of another operator and one in parentheses, in both of its
associations. -/
theorem ofNode_chain_of_three :
    let name (f : Field) : Node := .mk { kind := .identifier, field := some f } []
    let join (k : Kind) (f : Field) (x y : Node) : Node := .mk { kind := .booleanOperator, field := some f } [x,
      .mk { kind := k, field := some .operator } [], .mk { kind := .comment } [], y]
    let both (f : Field) : Node := join .andWord f (name .left) (name .right)
    let group : Node := .mk { kind := .parenthesizedExpression, field := some .right } [
      join .orWord .left (name .left) (name .right)]
    let t := join .orWord .condition (join .orWord .left (name .left) (both .right)) group
    let u := join .orWord .condition (name .left) (join .orWord .right (both .left) group)
    Reassociated t u ∧ ofNode u = ofNode t ∧ ∃ operations operands, t.ChainOf operations operands ∧
      ofNode t = node (.boolean operands.length) (operands.map fun o => ofNode o.2) ∧ operands.length = 3 ∧
      operations.length = 2 := by
  intro name join both group t u
  have outer : Operation (some .orWord) (join .orWord .left (name .left) (both .right)) group t := ⟨rfl, rfl, rfl, rfl⟩
  have outer' : Operation (some .orWord) (name .left) (join .orWord .right (both .left) group) u := ⟨rfl, rfl, rfl, rfl⟩
  have reassociated : Reassociated t u :=
    .rotate outer ⟨rfl, rfl, rfl, rfl⟩ outer' ⟨rfl, rfl, rfl, rfl⟩ (.relabel rfl) (.relabel rfl) (.relabel rfl)
  have all : ∀ m ∈ t.nodes, m.kind = .booleanOperator → m.Sided := by decide
  have sided (p : List Side) (m : Node) (linked : t.Linked p m) : m.Sided := by
    obtain ⟨below, operation⟩ := linked.mem_nodes rfl
    exact all m below operation
  obtain ⟨operations, operands, chain, flow, count, -⟩ := ofNode_chain.1 t rfl sided
  have shape : (ofNode t).shape = .boolean 3 := by decide
  rw [flow] at shape
  have three : operands.length = 3 := Shape.boolean.inj shape
  exact ⟨reassociated, ofNode_chain.2 t u reassociated, operations, operands, chain, flow, three, by omega⟩

end Flow

end CodeAudit
