import CodeAudit.Proofs.Flow.Complexity
import CodeAudit.Proofs.Flow.Height

/-! The skeleton of a flow tree is all that its measures depend on: what is `other` counts nothing and nests nothing,
wherever it stands. -/
namespace CodeAudit.Flow

@[simp] theorem skeletons_nil : skeletons [] = [] := by
  rw [skeletons]

@[simp] theorem skeletons_cons (t : Flow) (ts : List Flow) : skeletons (t :: ts) = t.skeleton ++ skeletons ts := by
  rw [skeletons]

@[simp] theorem skeletons_append (ts us : List Flow) : skeletons (ts ++ us) = skeletons ts ++ skeletons us := by
  induction ts with
  | nil => simp
  | cons t ts ih => simp [ih]

theorem skeletons_map_congr {α : Type} {f g : α → Flow} {xs : List α}
    (same : ∀ x ∈ xs, (f x).skeleton = (g x).skeleton) : skeletons (xs.map f) = skeletons (xs.map g) := by
  induction xs with
  | nil => rfl
  | cons x xs ih =>
    obtain ⟨first, others⟩ := List.forall_mem_cons.mp same
    rw [List.map_cons, List.map_cons, skeletons_cons, skeletons_cons, first, ih others]

@[simp] theorem skeleton_other (ts : List Flow) : (node .other ts).skeleton = skeletons ts := by
  simp [skeleton]

theorem skeleton_node {s : Shape} (shown : s ≠ .other) (ts : List Flow) :
    (node s ts).skeleton = [node s (skeletons ts)] := by
  simp [skeleton, shown]

mutual

theorem ofFlows_skeleton (w : Tally) : ∀ t : Flow, w.ofFlows t.skeleton = w.ofFlow t
  | .node s cs => by
    by_cases other : s = .other
    · subst other
      rw [skeleton_other, ofFlows_skeletons w cs, Tally.ofFlow_node, Tally.ofShape, Nat.zero_add]
    · rw [skeleton_node other, Tally.ofFlows_cons, Tally.ofFlow_node, Tally.ofFlow_node, ofFlows_skeletons w cs,
        Tally.ofFlows_nil, Nat.add_zero]

theorem ofFlows_skeletons (w : Tally) : ∀ ts : List Flow, w.ofFlows (skeletons ts) = w.ofFlows ts
  | [] => by rw [skeletons_nil]
  | t :: ts => by
    rw [skeletons_cons, Tally.ofFlows_append, ofFlows_skeleton w t, ofFlows_skeletons w ts, Tally.ofFlows_cons]

end

mutual

theorem heights_skeleton : ∀ t : Flow, heights t.skeleton = t.height
  | .node s cs => by
    by_cases other : s = .other
    · subst other
      rw [skeleton_other, heights_skeletons cs, height_node]
      simp [Shape.isDecision]
    · rw [skeleton_node other, heights_cons, height_node, height_node, heights_skeletons cs, heights_nil,
        Nat.max_zero]

theorem heights_skeletons : ∀ ts : List Flow, heights (skeletons ts) = heights ts
  | [] => by rw [skeletons_nil]
  | t :: ts => by
    rw [skeletons_cons, heights_append, heights_skeleton t, heights_skeletons ts, heights_cons]

end

variable {t u : Flow}

theorem complexity_eq_of_skeleton (same : t.skeleton = u.skeleton) : t.complexity = u.complexity := by
  rw [complexity, complexity, decisionPoints_eq_tally, decisionPoints_eq_tally, ← ofFlows_skeleton, same,
    ofFlows_skeleton]

theorem nesting_eq_of_skeleton (same : t.skeleton = u.skeleton) (level : Nat) :
    t.nesting level = u.nesting level := by
  have deepest : t.height = u.height := by
    rw [← heights_skeleton, same, heights_skeleton]
  have decisions : branchTally.ofFlow t = branchTally.ofFlow u := by
    rw [← ofFlows_skeleton, same, ofFlows_skeleton]
  rw [nesting_eq, nesting_eq, deepest, decisions]

end CodeAudit.Flow
