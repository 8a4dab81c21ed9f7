import CodeAudit.Proofs.Flow.Skeleton
import CodeAudit.Proofs.Flow.Ways
import Mathlib.Logic.Relation

/-! Rearranged flow trees. The order of siblings does not matter to any measure, and neither do nodes that are `other`,
wherever they are put in or taken out: what is measured is how all other nodes lie in each other. -/
namespace CodeAudit.Flow

/-- One step of rearranging the trees below a node: they change places, a run of them is put into a node that is
`other`, or the same is done somewhere further down. -/
inductive Rearranging : List Flow → List Flow → Prop
  | permute {ts us : List Flow} (perm : ts.Perm us) : Rearranging ts us
  | enclose (front run back : List Flow) : Rearranging (front ++ run ++ back) (front ++ .node .other run :: back)
  | within (s : Shape) (front : List Flow) {ts us : List Flow} (back : List Flow) (step : Rearranging ts us) :
      Rearranging (front ++ .node s ts :: back) (front ++ .node s us :: back)

/-- Trees that become each other in any number of such steps and of steps back. -/
abbrev Rearranged : List Flow → List Flow → Prop :=
  Relation.EqvGen Rearranging

variable {ts us ts' us' : List Flow}

theorem Rearranging.beside (front back : List Flow) (step : Rearranging ts us) :
    Rearranging (front ++ ts ++ back) (front ++ us ++ back) := by
  cases step with
  | permute perm => exact .permute ((perm.append_left front).append_right back)
  | enclose front' run back' => simpa using Rearranging.enclose (front ++ front') run (back' ++ back)
  | within s front' back' step => simpa using Rearranging.within s (front ++ front') (back' ++ back) step

/-- A rearrangement of some trees is one of any trees that they become a part of. -/
theorem Rearranged.map (f : List Flow → List Flow) (part : ∀ ts us, Rearranging ts us → Rearranging (f ts) (f us))
    (rearranged : Rearranged ts us) : Rearranged (f ts) (f us) := by
  induction rearranged with
  | rel _ _ step => exact .rel _ _ (part _ _ step)
  | refl ts => exact .refl _
  | symm _ _ _ ih => exact .symm _ _ ih
  | trans _ _ _ _ _ first second => exact .trans _ _ _ first second

theorem Rearranged.append (front : Rearranged ts us) (back : Rearranged ts' us') :
    Rearranged (ts ++ ts') (us ++ us') := by
  refine .trans _ (us ++ ts') _ (front.map (· ++ ts') fun _ _ step => ?_)
    (back.map (us ++ ·) fun _ _ step => ?_)
  · exact step.beside [] ts'
  · simpa using step.beside us []

mutual

/-- A skeleton is a rearrangement. -/
theorem rearranged_skeleton : ∀ t : Flow, Rearranged [t] t.skeleton
  | .node s ts => by
    by_cases other : s = .other
    · subst other
      rw [skeleton_other]
      have enclosed : Rearranging ts [.node .other ts] := by simpa using Rearranging.enclose [] ts []
      exact .trans _ _ _ (.symm _ _ (.rel _ _ enclosed)) (rearranged_skeletons ts)
    · rw [skeleton_node other]
      exact (rearranged_skeletons ts).map (fun us => [.node s us]) fun _ _ step => .within s [] [] step

theorem rearranged_skeletons : ∀ ts : List Flow, Rearranged ts (skeletons ts)
  | [] => by
    rw [skeletons_nil]
    exact .refl _
  | t :: ts => by
    rw [skeletons_cons]
    exact (rearranged_skeleton t).append (rearranged_skeletons ts)

end

theorem nodesOf_append (ts us : List Flow) : nodesOf (ts ++ us) = nodesOf ts ++ nodesOf us := by
  induction ts with
  | nil => rfl
  | cons t ts ih => rw [List.cons_append, nodesOf, nodesOf, ih, List.append_assoc]

mutual

/-- No node of a skeleton is `other`. -/
theorem shape_of_skeleton : ∀ t : Flow, ∀ u ∈ nodesOf t.skeleton, u.shape ≠ .other
  | .node s ts => by
    by_cases other : s = .other
    · rw [other, skeleton_other]
      exact shape_of_skeletons ts
    · rw [skeleton_node other, nodesOf, nodes, nodesOf, List.append_nil]
      exact List.forall_mem_cons.mpr ⟨other, shape_of_skeletons ts⟩

theorem shape_of_skeletons : ∀ ts : List Flow, ∀ u ∈ nodesOf (skeletons ts), u.shape ≠ .other
  | [] => by simp [nodesOf]
  | t :: ts => by
    rw [skeletons_cons, nodesOf_append]
    exact List.forall_mem_append.mpr ⟨shape_of_skeleton t, shape_of_skeletons ts⟩

end

theorem heights_perm (perm : ts.Perm us) : heights ts = heights us := by
  induction perm with
  | nil => rfl
  | cons t _ ih => rw [heights_cons, heights_cons, ih]
  | swap t u ts =>
    simp only [heights_cons]
    omega
  | trans _ _ first second => exact first.trans second

theorem ofFlows_perm (w : Tally) (perm : ts.Perm us) : w.ofFlows ts = w.ofFlows us := by
  induction perm with
  | nil => rfl
  | cons t _ ih => rw [Tally.ofFlows_cons, Tally.ofFlows_cons, ih]
  | swap t u ts =>
    simp only [Tally.ofFlows_cons]
    omega
  | trans _ _ first second => exact first.trans second

/-- Trees side by side that are as high and in which as much is counted. -/
structure Balanced (ts us : List Flow) : Prop where
  heights : heights ts = heights us
  counts (w : Tally) : w.ofFlows ts = w.ofFlows us

/-- A node does not tell balanced trees below it apart. -/
theorem Balanced.within (s : Shape) (front back : List Flow) (balanced : Balanced ts us) :
    Balanced (front ++ .node s ts :: back) (front ++ .node s us :: back) where
  heights := by simp [balanced.heights]
  counts w := by simp [balanced.counts w]

theorem balanced_rearranging (step : Rearranging ts us) : Balanced ts us := by
  induction step with
  | permute perm => exact ⟨heights_perm perm, fun w => ofFlows_perm w perm⟩
  | enclose front run back =>
    constructor
    · simp [Shape.isDecision]
    · simp [Tally.ofShape]
  | within s front back _ ih => exact ih.within s front back

theorem balanced_rearranged (rearranged : Rearranged ts us) : Balanced ts us := by
  induction rearranged with
  | rel _ _ step => exact balanced_rearranging step
  | refl => exact ⟨rfl, fun _ => rfl⟩
  | symm _ _ _ ih => exact ⟨ih.heights.symm, fun w => (ih.counts w).symm⟩
  | trans _ _ _ _ _ first second =>
    exact ⟨first.heights.trans second.heights, fun w => (first.counts w).trans (second.counts w)⟩

/-- Trees with the same measures, whatever else a report depends on. -/
structure SameMeasures (t u : Flow) : Prop where
  complexity : t.complexity = u.complexity
  nesting (level : Nat) : t.nesting level = u.nesting level
  report (limits : Thresholds) (lines : List (List Char)) : Report.of limits t lines = Report.of limits u lines

theorem sameMeasures_of_balanced (s : Shape) (balanced : Balanced ts us) :
    SameMeasures (.node s ts) (.node s us) := by
  have nesting (level : Nat) : (node s ts).nesting level = (node s us).nesting level := by
    rw [nesting_eq, nesting_eq, height_node, height_node, Tally.ofFlow_node, Tally.ofFlow_node, balanced.heights,
      balanced.counts]
  refine ⟨?_, nesting, fun limits lines => ?_⟩
  · rw [complexity, complexity, decisionPoints_eq_tally, decisionPoints_eq_tally, Tally.ofFlow_node,
      Tally.ofFlow_node, balanced.counts]
  · rw [Report.of, Report.of, nesting]

/-- A tree has the measures of its skeleton, which has no node that is `other` below the root, and of every tree with
the same root that comes of rearranging what is below the root. -/
theorem measures_of_rearranged (s : Shape) :
    (∀ ts, SameMeasures (.node s ts) (.node s (skeletons ts)) ∧ ∀ u ∈ nodesOf (skeletons ts), u.shape ≠ .other) ∧
    ∀ ts us, Rearranged ts us → SameMeasures (.node s ts) (.node s us) := by
  have measures (ts us : List Flow) (rearranged : Rearranged ts us) : SameMeasures (.node s ts) (.node s us) :=
    sameMeasures_of_balanced s (balanced_rearranged rearranged)
  exact ⟨fun ts => ⟨measures ts _ (rearranged_skeletons ts), shape_of_skeletons ts⟩, measures⟩

/-- A handler in front of its block's statements, two of which change places and get a node around them. -/
theorem measures_of_rearranged_block :
    let guard : Flow := .node .conditional [.node (.boolean 3) [], .node .loop [.node .conditional []]]
    let handler : Flow := .node .other []
    let ts : List Flow := [.node (.exceptions 1 0) [.node .other [guard, .node .loop []], handler]]
    let us : List Flow := [.node (.exceptions 1 0) [handler, .node .other [.node .other [.node .loop [], guard]]]]
    Rearranged ts us ∧ SameMeasures (.node .other ts) (.node .other us) ∧ (node .other us).complexity = 8 ∧
      (node .other us).nesting 0 = ⟨3, 4⟩ := by
  intro guard handler ts us
  let block (cs : List Flow) : List Flow := [.node (.exceptions 1 0) cs]
  have swapped : Rearranging [guard, .node .loop []] [.node .loop [], guard] := .permute (.swap _ _ _)
  have enclosed : Rearranging [.node .loop [], guard] [.node .other [.node .loop [], guard]] :=
    .enclose [] [.node .loop [], guard] []
  have around : Rearranged [guard, .node .loop []] [.node .other [.node .loop [], guard]] :=
    .trans _ _ _ (.rel _ _ swapped) (.rel _ _ enclosed)
  have body : Rearranged (block [.node .other [guard, .node .loop []], handler])
      (block [.node .other [.node .other [.node .loop [], guard]], handler]) :=
    around.map (fun cs => block [.node .other cs, handler]) fun _ _ step =>
      .within _ [] [] (.within .other [] [handler] step)
  have rearranged : Rearranged ts us :=
    .trans _ _ _ body (.rel _ _ (.within _ [] [] (.permute (.swap _ _ _))))
  exact ⟨rearranged, (measures_of_rearranged .other).2 ts us rearranged, by decide, by decide⟩

end CodeAudit.Flow
