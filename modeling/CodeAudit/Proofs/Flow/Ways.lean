import CodeAudit.Proofs.Flow.Complexity
import CodeAudit.Proofs.Flow.Height
import CodeAudit.Proofs.Report.Patterns
import Mathlib.Order.Bounds.Defs

/-! Ways down through a flow tree. What is measured as nesting are the most decisions on one way and the decisions
anywhere; no way has more of them than there are, and each of them is a decision point. -/
namespace CodeAudit

namespace Flow

mutual

/-- A node and every node below it. -/
def nodes : Flow → List Flow
  | .node s cs => .node s cs :: nodesOf cs

def nodesOf : List Flow → List Flow
  | [] => []
  | t :: ts => nodes t ++ nodesOf ts

end

/-- How many of the given nodes are conditionals or loops. -/
def decisionsAmong (ts : List Flow) : Nat :=
  ts.countP (·.shape.isDecision)

/-- A way from a node down to itself or to a node below it, as the nodes on it. -/
inductive Way : Flow → List Flow → Prop
  | stay (t : Flow) : Way t [t]
  | down (s : Shape) {cs : List Flow} {c : Flow} {way : List Flow} (child : c ∈ cs) (below : Way c way) :
      Way (.node s cs) (.node s cs :: way)

theorem decisionsAmong_cons (s : Shape) (cs ts : List Flow) :
    decisionsAmong (.node s cs :: ts) = (if s.isDecision then 1 else 0) + decisionsAmong ts := by
  rw [decisionsAmong, List.countP_cons, Nat.add_comm]
  rfl

theorem decisionsAmong_append (ts us : List Flow) :
    decisionsAmong (ts ++ us) = decisionsAmong ts + decisionsAmong us :=
  List.countP_append

/-- No way has more decisions on it than the height of the tree. -/
theorem Way.decisions_le {t : Flow} {way : List Flow} (down : Way t way) : decisionsAmong way ≤ t.height := by
  induction down with
  | stay t =>
    obtain ⟨s, cs⟩ := t
    rw [decisionsAmong_cons, height_node]
    exact Nat.add_le_add_left (Nat.zero_le _) _
  | down s child _ ih =>
    rw [decisionsAmong_cons, height_node]
    exact Nat.add_le_add_left (Nat.le_trans ih (height_le_heights child)) _

mutual

/-- Some way has as many. -/
theorem exists_way : ∀ t : Flow, ∃ way, Way t way ∧ decisionsAmong way = t.height
  | .node s cs => by
    obtain zero | ⟨c, child, most⟩ := heights_attained cs
    · exact ⟨_, .stay _, by rw [decisionsAmong_cons, height_node, zero]; rfl⟩
    · obtain ⟨way, down, same⟩ := exists_wayOf cs c child
      exact ⟨_, .down s child down, by rw [decisionsAmong_cons, height_node, most, same]⟩

theorem exists_wayOf : ∀ cs : List Flow, ∀ c ∈ cs, ∃ way, Way c way ∧ decisionsAmong way = c.height
  | [] => by simp
  | c :: cs => List.forall_mem_cons.mpr ⟨exists_way c, exists_wayOf cs⟩

end

mutual

theorem decisionsAmong_nodes : ∀ t : Flow, decisionsAmong t.nodes = branchTally.ofFlow t
  | .node s cs => by
    rw [nodes, decisionsAmong_cons, decisionsAmong_nodesOf cs, Tally.ofFlow_node, ofShape_branchTally]

theorem decisionsAmong_nodesOf : ∀ ts : List Flow, decisionsAmong (nodesOf ts) = branchTally.ofFlows ts
  | [] => by rw [nodesOf, Tally.ofFlows_nil]; rfl
  | t :: ts => by
    rw [nodesOf, decisionsAmong_append, decisionsAmong_nodes t, decisionsAmong_nodesOf ts, Tally.ofFlows_cons]

end

mutual

/-- There are no more decisions on a way than anywhere, and none anywhere if there are none on any way. -/
theorem height_le_tally : ∀ t : Flow, t.height ≤ branchTally.ofFlow t ∧ (t.height = 0 → branchTally.ofFlow t = 0)
  | .node s cs => by
    have below := heights_le_tally cs
    rw [height_node, Tally.ofFlow_node, ofShape_branchTally]
    omega

theorem heights_le_tally : ∀ ts : List Flow,
    heights ts ≤ branchTally.ofFlows ts ∧ (heights ts = 0 → branchTally.ofFlows ts = 0)
  | [] => by simp
  | t :: ts => by
    have first := height_le_tally t
    have others := heights_le_tally ts
    rw [heights_cons, Tally.ofFlows_cons]
    omega

end

theorem ofShape_branchTally_le (s : Shape) : branchTally.ofShape s ≤ s.decisionPoints := by
  cases s <;> simp [Tally.ofShape, branchTally, Shape.decisionPoints]

mutual

/-- Every decision is a decision point. -/
theorem tally_le_decisionPoints : ∀ t : Flow, branchTally.ofFlow t ≤ t.decisionPoints
  | .node s cs => by
    rw [Tally.ofFlow_node, decisionPoints]
    exact Nat.add_le_add (ofShape_branchTally_le s) (tally_le_decisionPointsOf cs)

theorem tally_le_decisionPointsOf : ∀ ts : List Flow, branchTally.ofFlows ts ≤ decisionPointsOf ts
  | [] => by simp
  | t :: ts => by
    rw [Tally.ofFlows_cons, decisionPointsOf]
    exact Nat.add_le_add (tally_le_decisionPoints t) (tally_le_decisionPointsOf ts)

end

theorem isGreatest_height (t : Flow) : IsGreatest {n | ∃ way, Way t way ∧ decisionsAmong way = n} t.height := by
  refine ⟨exists_way t, ?_⟩
  rintro n ⟨way, down, rfl⟩
  exact down.decisions_le

theorem tally_lt_complexity (t : Flow) : branchTally.ofFlow t < t.complexity := by
  have points := tally_le_decisionPoints t
  rw [complexity]
  omega

end Flow

/-- The measures of a report are as they can be for a function of the given complexity. -/
structure Report.Consistent (r : Report) (complexity : Nat) : Prop where
  nesting : r.maxNestingDepth ≤ r.conditionalDepth
  conditionals : r.conditionalDepth < complexity

theorem Report.consistent_of (limits : Thresholds) (t : Flow) (lines : List (List Char)) :
    (Report.of limits t lines).Consistent t.complexity := by
  constructor
  · rw [Report.of, Flow.nesting_eq, Nat.zero_add]
    exact (Flow.height_le_tally t).1
  · rw [Report.of, Flow.nesting_eq]
    exact Flow.tally_lt_complexity t

namespace Flow

/-- The level that a tree lies at shifts the deepest level and nothing else. Without it, the nesting is given by the
most decisions on a way down and the number of all decisions; the former is at most the latter and only zero with it,
and the latter is below the complexity. So are the measures in every report and in every analysis. -/
theorem nesting_along_ways :
    (∀ t : Flow, ∃ deepest, IsGreatest {n | ∃ way, Way t way ∧ decisionsAmong way = n} deepest ∧
      (∀ level, t.nesting level = ⟨level + deepest, decisionsAmong t.nodes⟩) ∧
      deepest ≤ decisionsAmong t.nodes ∧ decisionsAmong t.nodes ≤ t.complexity - 1 ∧
      (deepest = 0 ↔ decisionsAmong t.nodes = 0)) ∧
    (∀ limits t lines, (Report.of limits t lines).Consistent t.complexity) ∧
    ∀ limits text a, analyze limits text = .ok a → a.report.Consistent a.complexity := by
  refine ⟨fun t => ⟨t.height, isGreatest_height t, ?_⟩, Report.consistent_of, ?_⟩
  · obtain ⟨atMost, none⟩ := height_le_tally t
    rw [decisionsAmong_nodes]
    refine ⟨fun level => nesting_eq level t, atMost, Nat.le_sub_one_of_lt (tally_lt_complexity t), none, fun zero => ?_⟩
    exact Nat.le_zero.mp (zero ▸ atMost)
  · intro limits text a given
    obtain ⟨t, -, rfl⟩ := analyze_eq_ok_iff.mp given
    exact Report.consistent_of limits t _

/-- A loop with an `if` in it beside a second `if`, whose condition is a chain of operands. -/
theorem nesting_along_ways_of_loop :
    let text := "def f(xs):\n    for x in xs:\n        if x:\n            pass\n    if xs and f or g:\n        pass\n"
    let a : Analysis :=
      { complexity := 6, report := { patterns := .empty, maxNestingDepth := 2, conditionalDepth := 3 } }
    analyze {} text = .ok a ∧ a.report.Consistent a.complexity := by
  intro text a
  have given : analyze {} text = .ok a := eq_ok_of_toOption (by decide +kernel)
  exact ⟨given, nesting_along_ways.2.2 {} text a given⟩

end Flow

end CodeAudit
