import CodeAudit.Proofs.Syntax.Shape
import Mathlib.Data.List.TakeWhile

/-! Two spellings of a choice between several cases: `elif` clauses side by side, and `if` statements each within the
`else` part of the one before. Every chain of clauses can be rewritten into nested statements. -/
namespace CodeAudit.Syntax

namespace Node

def isClause (n : Node) : Bool :=
  n.kind = .elifClause || n.kind = .elseClause

/-- A token without a text of its own. -/
def token (k : Kind) : Node :=
  .mk { kind := k } []

/-- A child of an `elif` clause as it stands in an `if` statement. -/
def ofElif (n : Node) : Node :=
  if n.kind = .elifWord then .mk { n.label with kind := .ifWord } n.children else n

/-- An `else` clause in the place of another clause, whose block holds one `if` statement with the given children. -/
def elseIf (l : Label) (parts : List Node) : Node :=
  .mk { l with kind := .elseClause } [token .elseWord, token .colon,
    .mk { l with kind := .block, field := some .body } [.mk { l with kind := .ifStatement, field := none } parts]]

/-- What remains of a chain from the given `elif` clauses on, spelled as at most one `else` clause. -/
def nestClauses (orelse : List Node) : (elifs : List Node) → List Node
  | [] => orelse
  | c :: rest => [elseIf c.label (c.children.map ofElif ++ nestClauses orelse rest)]

/-- The children of a conditional statement with its chain nested where the first clause stood. -/
def nestChain (cs : List Node) : List Node :=
  cs.takeWhile (!·.isClause) ++
    nestClauses (cs.filter (·.kind = .elseClause)) (cs.filter (·.kind = .elifClause)) ++
    (cs.dropWhile (!·.isClause)).filter (!·.isClause)

mutual

/-- A node with every chain in it nested. -/
def nestElifs : Node → Node
  | .mk l cs => .mk l (if l.kind = .ifStatement then nestChain (nestElifsOf cs) else nestElifsOf cs)

def nestElifsOf : List Node → List Node
  | [] => []
  | n :: rest => nestElifs n :: nestElifsOf rest

end

/-- What the grammar says about the clauses of conditional statements: an `elif` clause stands in an `if` statement
and is made of a condition and a body, not of clauses; there is one `else` part at most. -/
structure Chained (n : Node) : Prop where
  elifs : n.Places .elifClause
  parts : n.kind = .elifClause → ∀ c ∈ n.children, c.kind ≠ .elseClause
  oneElse : n.OneElse

instance (n : Node) : Decidable (Chained n) :=
  decidable_of_iff
    ((∀ c ∈ n.children, c.kind = .elifClause → Kind.elifClause.statement? = some n.kind) ∧
      (n.kind = .elifClause → ∀ c ∈ n.children, c.kind ≠ .elseClause) ∧
      (n.kind = .ifStatement → n.children.countP (·.kind = .elseClause) ≤ 1))
    ⟨fun ⟨elifs, parts, oneElse⟩ => ⟨elifs, parts, oneElse⟩, fun ⟨elifs, parts, oneElse⟩ => ⟨elifs, parts, oneElse⟩⟩

theorem nestElifsOf_eq (cs : List Node) : nestElifsOf cs = cs.map nestElifs := by
  induction cs with
  | nil => rfl
  | cons n rest ih => rw [nestElifsOf, ih, List.map_cons]

theorem nestElifs_mk (l : Label) (cs : List Node) : nestElifs (.mk l cs) =
    .mk l (if l.kind = .ifStatement then nestChain (cs.map nestElifs) else cs.map nestElifs) := by
  rw [nestElifs, nestElifsOf_eq]

@[simp] theorem label_nestElifs (n : Node) : n.nestElifs.label = n.label := by
  cases n with
  | mk l cs => rw [nestElifs_mk, label_mk, label_mk]

@[simp] theorem kind_nestElifs (n : Node) : n.nestElifs.kind = n.kind := by
  rw [kind, label_nestElifs, kind]

theorem children_nestElifs {n : Node} (other : n.kind ≠ .ifStatement) :
    n.nestElifs.children = n.children.map nestElifs := by
  cases n with
  | mk l cs =>
    rw [kind_mk] at other
    rw [nestElifs_mk, children_mk, children_mk, if_neg other]

/-- Nodes are chosen by their kinds alike before and after their chains are nested. -/
theorem filter_map_nestElifs (p : Kind → Bool) (cs : List Node) :
    (cs.map nestElifs).filter (p ·.kind) = (cs.filter (p ·.kind)).map nestElifs := by
  rw [List.filter_map]
  simp only [Function.comp_def, kind_nestElifs]

/-- A nested chain has no clause but `else` clauses. -/
theorem nestClauses_kind {orelse : List Node} (clauses : ∀ c ∈ orelse, c.kind = .elseClause) (elifs : List Node) :
    ∀ c ∈ nestClauses orelse elifs, c.kind = .elseClause := by
  cases elifs with
  | nil => exact clauses
  | cons c rest =>
    intro d member
    obtain rfl := List.mem_singleton.mp member
    rfl

theorem filter_nestChain {p : Kind → Bool} (notElif : p .elifClause = false) (notElse : p .elseClause = false)
    (cs : List Node) : (nestChain cs).filter (p ·.kind) = cs.filter (p ·.kind) := by
  have chain : (nestClauses (cs.filter (·.kind = .elseClause)) (cs.filter (·.kind = .elifClause))).filter (p ·.kind) =
      [] := by
    refine List.filter_eq_nil_iff.mpr fun c member => ?_
    rw [nestClauses_kind (by simp) _ c member, notElse]
    exact Bool.false_ne_true
  have others (c : Node) (holds : p c.kind = true) : (!c.isClause) = true := by
    have notElif : c.kind ≠ .elifClause := by
      rintro elif
      simp [elif, notElif] at holds
    have notElse : c.kind ≠ .elseClause := by
      rintro orelse
      simp [orelse, notElse] at holds
    simp [isClause, notElif, notElse]
  have back : ((cs.dropWhile (!·.isClause)).filter (!·.isClause)).filter (p ·.kind) =
      (cs.dropWhile (!·.isClause)).filter (p ·.kind) := by
    rw [List.filter_filter]
    refine List.filter_congr fun c _ => ?_
    cases holds : p c.kind with
    | false => rfl
    | true => rw [others c holds, Bool.and_self]
  rw [nestChain, List.filter_append, List.filter_append, chain, back, List.append_nil, ← List.filter_append,
    List.takeWhile_append_dropWhile]

/-- Children of a conditional statement stay children, clauses apart. -/
theorem mem_nestChain {cs : List Node} {c : Node} (member : c ∈ nestChain cs) :
    (c ∈ cs ∧ c.isClause = false) ∨
      c ∈ nestClauses (cs.filter (·.kind = .elseClause)) (cs.filter (·.kind = .elifClause)) := by
  rw [nestChain, List.mem_append, List.mem_append] at member
  rcases member with (front | chain) | back
  · refine .inl ⟨(List.takeWhile_sublist _).subset front, ?_⟩
    simpa using List.mem_takeWhile_imp front
  · exact .inr chain
  · obtain ⟨child, other⟩ := List.mem_filter.mp back
    exact .inl ⟨(List.dropWhile_sublist _).subset child, by simpa using other⟩

theorem kind_of_mem_nestChain {cs : List Node} {c : Node} (member : c ∈ nestChain cs) : c.kind ≠ .elifClause := by
  rcases mem_nestChain member with ⟨-, other⟩ | chain
  · simp only [isClause, Bool.or_eq_false_iff, decide_eq_false_iff_not] at other
    exact other.1
  · rw [nestClauses_kind (by simp) _ c chain]
    decide

theorem filter_nestChain_else (cs : List Node) : (nestChain cs).filter (·.kind = .elseClause) =
    nestClauses (cs.filter (·.kind = .elseClause)) (cs.filter (·.kind = .elifClause)) := by
  have noClause {xs : List Node} (other : ∀ c ∈ xs, (!c.isClause) = true) :
      xs.filter (·.kind = .elseClause) = [] := by
    refine List.filter_eq_nil_iff.mpr fun c member => ?_
    have other := other c member
    simp only [isClause, Bool.not_eq_true', Bool.or_eq_false_iff] at other
    simpa using other.2
  have chain : (nestClauses (cs.filter (·.kind = .elseClause)) (cs.filter (·.kind = .elifClause))).filter
      (·.kind = .elseClause) = nestClauses (cs.filter (·.kind = .elseClause)) (cs.filter (·.kind = .elifClause)) := by
    refine List.filter_eq_self.mpr fun c member => ?_
    rw [nestClauses_kind (by simp) _ c member]
    rfl
  rw [nestChain, List.filter_append, List.filter_append, noClause fun c => List.mem_takeWhile_imp, chain,
    noClause fun c member => (List.mem_filter.mp member).2, List.append_nil, List.nil_append]

theorem mem_nodes {n m : Node} : m ∈ n.nodes ↔ m = n ∨ ∃ c ∈ n.children, m ∈ c.nodes := by
  cases n with
  | mk l cs => rw [nodes_mk, List.mem_cons, List.mem_flatMap, children_mk]

/-- A node that is no clause to be nested and has one `else` part at most. -/
def Unchained (n : Node) : Prop :=
  n.kind ≠ .elifClause ∧ n.OneElse

theorem unchained_of_kind {n : Node} (k : Kind) (kind : n.kind = k) (notElif : k ≠ .elifClause)
    (notIf : k ≠ .ifStatement) : n.Unchained :=
  ⟨kind ▸ notElif, fun conditional => absurd (kind.symm.trans conditional) notIf⟩

theorem unchained_ofElif {c : Node} (unchained : ∀ m ∈ c.nodes, m.Unchained) : ∀ m ∈ (ofElif c).nodes, m.Unchained := by
  unfold ofElif
  split
  · intro m member
    rcases mem_nodes.mp member with rfl | ⟨d, child, below⟩
    · exact unchained_of_kind .ifWord rfl (by decide) (by decide)
    · exact unchained m (mem_nodes.mpr (.inr ⟨d, child, below⟩))
  · exact unchained

theorem unchained_elseIf (l : Label) {parts : List Node} (one : parts.countP (·.kind = .elseClause) ≤ 1)
    (unchained : ∀ c ∈ parts, ∀ m ∈ c.nodes, m.Unchained) : ∀ m ∈ (elseIf l parts).nodes, m.Unchained := by
  have token (k : Kind) (notElif : k ≠ .elifClause) (notIf : k ≠ .ifStatement) :
      ∀ m ∈ (token k).nodes, m.Unchained := by
    intro m member
    rw [Node.token, nodes_mk, List.flatMap_nil, List.mem_singleton] at member
    subst member
    exact unchained_of_kind k rfl notElif notIf
  intro m member
  rcases mem_nodes.mp member with rfl | ⟨d, child, below⟩
  · exact unchained_of_kind .elseClause rfl (by decide) (by decide)
  rw [elseIf, children_mk, List.mem_cons, List.mem_cons, List.mem_singleton] at child
  rcases child with rfl | rfl | rfl
  · exact token .elseWord (by decide) (by decide) m below
  · exact token .colon (by decide) (by decide) m below
  rcases mem_nodes.mp below with rfl | ⟨d, child, below⟩
  · exact unchained_of_kind .block rfl (by decide) (by decide)
  rw [children_mk, List.mem_singleton] at child
  subst child
  rcases mem_nodes.mp below with rfl | ⟨d, child, below⟩
  · exact ⟨(by decide : Kind.ifStatement ≠ .elifClause), fun _ => one⟩
  · exact unchained d child m below

/-- A nested chain is one clause at most, and there is no chain in it. -/
theorem unchained_nestClauses (orelse elifs : List Node) (one : orelse.length ≤ 1)
    (last : ∀ c ∈ orelse, ∀ m ∈ c.nodes, m.Unchained)
    (parts : ∀ e ∈ elifs, ∀ c ∈ e.children, c.kind ≠ .elseClause ∧ ∀ m ∈ c.nodes, m.Unchained) :
    (nestClauses orelse elifs).length ≤ 1 ∧ ∀ c ∈ nestClauses orelse elifs, ∀ m ∈ c.nodes, m.Unchained := by
  induction elifs with
  | nil => exact ⟨one, last⟩
  | cons e rest ih =>
    obtain ⟨first, others⟩ := List.forall_mem_cons.mp parts
    obtain ⟨length, unchained⟩ := ih others
    refine ⟨Nat.le_refl 1, fun d member => ?_⟩
    obtain rfl := List.mem_singleton.mp member
    apply unchained_elseIf
    · have noElse : (e.children.map ofElif).countP (·.kind = .elseClause) = 0 := by
        refine List.countP_eq_zero.mpr fun c member => ?_
        obtain ⟨d, child, rfl⟩ := List.mem_map.mp member
        unfold ofElif
        split
        · simp
        · simpa using (first d child).1
      have most := List.countP_le_length (p := fun c : Node => c.kind = .elseClause) (l := nestClauses orelse rest)
      rw [List.countP_append, noElse]
      omega
    · intro c member
      rcases List.mem_append.mp member with part | clause
      · obtain ⟨d, child, rfl⟩ := List.mem_map.mp part
        exact unchained_ofElif (first d child).2
      · exact unchained c clause

/-- Below a node whose chains are nested there is no chain. -/
theorem unchained_nestElifs (n : Node) (chained : ∀ m ∈ n.nodes, m.Chained) :
    n.nestElifs.OneElse ∧ ∀ c ∈ n.nestElifs.children, ∀ m ∈ c.nodes, m.Unchained := by
  induction n using Node.induct with
  | mk l cs ih =>
    have own := chained _ (self_mem_nodes _)
    have below : ∀ c ∈ cs, c.nestElifs.OneElse ∧ ∀ d ∈ c.nestElifs.children, ∀ m ∈ d.nodes, m.Unchained :=
      fun c child => ih c child fun m below => chained m (mem_nodes_of_child child below)
    have nested : ∀ c ∈ cs, c.kind ≠ .elifClause → ∀ m ∈ c.nestElifs.nodes, m.Unchained := by
      intro c child notElif m member
      rcases mem_nodes.mp member with rfl | ⟨d, part, under⟩
      · exact ⟨by rwa [kind_nestElifs], (below c child).1⟩
      · exact (below c child).2 d part m under
    by_cases conditional : l.kind = .ifStatement
    · have once : (cs.filter (·.kind = .elseClause)).length ≤ 1 := by
        rw [← List.countP_eq_length_filter]
        exact own.oneElse conditional
      obtain ⟨length, unchained⟩ := unchained_nestClauses
        ((cs.map nestElifs).filter (·.kind = .elseClause)) ((cs.map nestElifs).filter (·.kind = .elifClause))
        (by rwa [filter_map_nestElifs (· = .elseClause), List.length_map])
        (by
          intro c member
          rw [filter_map_nestElifs (· = .elseClause)] at member
          obtain ⟨d, chosen, rfl⟩ := List.mem_map.mp member
          obtain ⟨child, orelse⟩ := List.mem_filter.mp chosen
          exact nested d child (by simp_all))
        (by
          intro e member c part
          rw [filter_map_nestElifs (· = .elifClause)] at member
          obtain ⟨d, chosen, rfl⟩ := List.mem_map.mp member
          obtain ⟨child, elif⟩ := List.mem_filter.mp chosen
          have elif : d.kind = .elifClause := by simpa using elif
          refine ⟨?_, (below d child).2 c part⟩
          rw [children_nestElifs (by rw [elif]; decide)] at part
          obtain ⟨c, inner, rfl⟩ := List.mem_map.mp part
          rw [kind_nestElifs]
          exact (chained d (mem_nodes_of_child child d.self_mem_nodes)).parts elif c inner)
      rw [nestElifs_mk, if_pos conditional, children_mk]
      refine ⟨fun _ => ?_, fun c member => ?_⟩
      · rw [children_mk, List.countP_eq_length_filter, filter_nestChain_else]
        exact length
      · rcases mem_nestChain member with ⟨child, other⟩ | chain
        · obtain ⟨d, inner, rfl⟩ := List.mem_map.mp child
          refine nested d inner fun elif => ?_
          simp [isClause, elif] at other
        · exact unchained c chain
    · rw [nestElifs_mk, if_neg conditional, children_mk]
      refine ⟨fun kind => absurd kind conditional, fun c member => ?_⟩
      obtain ⟨d, child, rfl⟩ := List.mem_map.mp member
      refine nested d child fun elif => ?_
      have statement := own.elifs d child elif
      exact conditional (Option.some.inj statement).symm

end Node

end CodeAudit.Syntax
