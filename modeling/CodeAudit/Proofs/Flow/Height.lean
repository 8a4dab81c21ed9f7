import CodeAudit.Proofs.Flow.Tally

/-! The nesting of flow without a level to start from: the level only shifts the result. The height of a tree is the
longest chain of decisions within each other, and the decisions are counted regardless of how they lie. -/
namespace CodeAudit.Flow

mutual

/-- The most decisions on a way down through a tree. -/
def height : Flow → Nat
  | .node s cs => (if s.isDecision then 1 else 0) + heights cs

/-- The height of the highest of several trees. -/
def heights : List Flow → Nat
  | [] => 0
  | t :: ts => max (height t) (heights ts)

end

/-- One for each conditional and loop. -/
def branchTally : Tally := ⟨1, 0, 0⟩

@[simp] theorem height_node (s : Shape) (ts : List Flow) :
    (node s ts).height = (if s.isDecision then 1 else 0) + heights ts := by
  rw [height]

@[simp] theorem heights_nil : heights [] = 0 := by
  rw [heights]

@[simp] theorem heights_cons (t : Flow) (ts : List Flow) : heights (t :: ts) = max t.height (heights ts) := by
  rw [heights]

@[simp] theorem heights_append (ts us : List Flow) : heights (ts ++ us) = max (heights ts) (heights us) := by
  induction ts with
  | nil => simp
  | cons t ts ih => simp [ih, Nat.max_assoc]

theorem height_le_heights {t : Flow} {ts : List Flow} (member : t ∈ ts) : t.height ≤ heights ts := by
  induction ts with
  | nil => simp at member
  | cons u ts ih =>
    rw [heights_cons]
    rcases List.mem_cons.mp member with rfl | later
    · exact Nat.le_max_left ..
    · exact Nat.le_trans (ih later) (Nat.le_max_right ..)

/-- The height of several trees is that of one of them. -/
theorem heights_attained (ts : List Flow) : heights ts = 0 ∨ ∃ t ∈ ts, heights ts = t.height := by
  induction ts with
  | nil => exact .inl heights_nil
  | cons t ts ih =>
    rw [heights_cons]
    by_cases first : heights ts ≤ t.height
    · exact .inr ⟨t, List.mem_cons_self, Nat.max_eq_left first⟩
    · have later : max t.height (heights ts) = heights ts := Nat.max_eq_right (by omega)
      rw [later]
      obtain zero | ⟨u, member, attained⟩ := ih
      · exact .inl zero
      · exact .inr ⟨u, List.mem_cons_of_mem _ member, attained⟩

theorem ofShape_branchTally (s : Shape) : branchTally.ofShape s = if s.isDecision then 1 else 0 := by
  cases s <;> simp [Tally.ofShape, branchTally, Shape.isDecision]

mutual

/-- A level is added to every way down and to no count. -/
theorem nesting_eq (level : Nat) : ∀ t : Flow, t.nesting level = ⟨level + t.height, branchTally.ofFlow t⟩
  | .node s cs => by
    rw [nesting, Tally.ofFlow_node, ofShape_branchTally, height_node]
    by_cases decision : s.isDecision
    · rw [if_pos decision, if_pos decision, nestingOf_eq (level + 1) _ cs (Nat.le_refl _)]
      simp only [Nesting.beside, Nesting.mk.injEq, and_true]
      omega
    · rw [if_neg decision, if_neg decision, nestingOf_eq level _ cs (Nat.le_refl _)]
      simp only [Nesting.beside, Nesting.mk.injEq, and_true]
      omega

theorem nestingOf_eq (level : Nat) (found : Nesting) : ∀ ts : List Flow, level ≤ found.deepest →
    nestingOf level found ts = found.beside ⟨level + heights ts, branchTally.ofFlows ts⟩
  | [], reached => by
    have deepest : max found.deepest level = found.deepest := Nat.max_eq_left reached
    simp [nestingOf, Nesting.beside, deepest]
  | t :: ts, reached => by
    rw [nestingOf, nesting_eq level t, nestingOf_eq level _ ts (Nat.le_trans reached (Nat.le_max_left ..))]
    simp only [Nesting.beside, heights_cons, Tally.ofFlows_cons, Nesting.mk.injEq]
    omega

end

end CodeAudit.Flow
