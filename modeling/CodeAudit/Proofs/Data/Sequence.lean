import CodeAudit.Data.Sequence

/-! What a sequence holds after a change. -/
namespace CodeAudit.Sequence

variable {α : Type} {x : α} {i : Nat}

namespace Nodes

/-- The way to a number ends in the tree or right below it. -/
def HasRoom : Nodes α → Nat → Prop
  | .none, i => i = 0
  | .node _ odd even, i =>
    if i = 0 then True else if i % 2 = 1 then odd.HasRoom (i / 2) else even.HasRoom (i / 2 - 1)

theorem hasRoom_of_isSome {t : Nodes α} (known : (t.get? i).isSome) : t.HasRoom i := by
  induction t generalizing i with
  | none => simp [get?] at known
  | node y odd even ihOdd ihEven =>
    unfold get? at known
    unfold HasRoom
    split at known
    · next top => simp [top]
    · next top =>
      split at known
      · next parity => simpa [top, parity] using ihOdd known
      · next parity => simpa [top, parity] using ihEven known

theorem get?_set {t : Nodes α} (room : t.HasRoom i) (j : Nat) :
    (t.set x i).get? j = if j = i then some x else t.get? j := by
  induction t generalizing i j with
  | none =>
    obtain rfl : i = 0 := room
    by_cases same : j = 0 <;> simp [set, get?, same]
  | node y odd even ihOdd ihEven =>
    unfold HasRoom at room
    by_cases top : i = 0
    · subst top
      by_cases same : j = 0 <;> simp [set, get?, same]
    by_cases parity : i % 2 = 1
    · simp only [top, parity, ↓reduceIte] at room
      simp only [set, top, parity, ↓reduceIte]
      rw [get?, get?]
      by_cases root : j = 0
      · simp [root, Ne.symm top]
      by_cases other : j % 2 = 1
      · have halves : j / 2 = i / 2 ↔ j = i := by omega
        simp [root, other, ihOdd room, halves]
      · have apart : j ≠ i := by omega
        simp [root, other, apart]
    · simp only [top, parity, ↓reduceIte] at room
      simp only [set, top, parity, ↓reduceIte]
      rw [get?, get?]
      by_cases root : j = 0
      · simp [root, Ne.symm top]
      by_cases other : j % 2 = 1
      · have apart : j ≠ i := by omega
        simp [root, other, apart]
      · have halves : j / 2 - 1 = i / 2 - 1 ↔ j = i := by omega
        simp [root, other, ihEven room, halves]

/-- A tree with exactly the numbers below `size`. -/
def Filled (t : Nodes α) (size : Nat) : Prop :=
  ∀ i, (t.get? i).isSome ↔ i < size

/-- The next number falls to the half that has room for it. -/
theorem Filled.hasRoom {t : Nodes α} {size : Nat} (filled : t.Filled size) : t.HasRoom size := by
  induction t generalizing size with
  | none => exact Nat.eq_zero_of_not_pos fun positive => by simpa [get?] using (filled 0).mpr positive
  | node y odd even ihOdd ihEven =>
    have top : size ≠ 0 := Nat.ne_of_gt ((filled 0).mp (by simp [get?]))
    unfold HasRoom
    rw [if_neg top]
    split
    · refine ihOdd fun i => ?_
      have there := filled (2 * i + 1)
      have index : (2 * i + 1) / 2 = i := by omega
      rw [get?, if_neg (by omega), if_pos (by omega), index] at there
      rw [there]
      omega
    · refine ihEven fun i => ?_
      have there := filled (2 * i + 2)
      have index : (2 * i + 2) / 2 - 1 = i := by omega
      rw [get?, if_neg (by omega), if_neg (by omega), index] at there
      rw [there]
      omega

end Nodes

/-- A sequence in use has a value at each index below its size. -/
def Filled (s : Sequence α) : Prop :=
  s.nodes.Filled s.size

theorem filled_empty : (empty : Sequence α).Filled := by
  intro i
  simp [empty, Nodes.get?]

variable {s : Sequence α}

theorem Filled.lt_size (filled : s.Filled) {y : α} (known : s.get? i = some y) : i < s.size :=
  (filled i).mp (Option.isSome_of_mem known)

theorem get?_push (filled : s.Filled) (j : Nat) : (s.push x).get? j = if j = s.size then some x else s.get? j :=
  Nodes.get?_set (Nodes.Filled.hasRoom filled) j

theorem Filled.push (filled : s.Filled) : (s.push x).Filled := by
  intro i
  have old : (s.get? i).isSome ↔ i < s.size := filled i
  show ((s.push x).get? i).isSome ↔ i < s.size + 1
  rw [get?_push filled]
  by_cases last : i = s.size
  · simp [last]
  · rw [if_neg last, old]
    omega

theorem get?_set (filled : s.Filled) {y : α} (known : s.get? i = some y) (j : Nat) :
    (s.set i x).get? j = if j = i then some x else s.get? j := by
  rw [set, if_pos (filled.lt_size known)]
  exact Nodes.get?_set (Nodes.hasRoom_of_isSome (Option.isSome_of_mem known)) j

theorem Filled.set (filled : s.Filled) {y : α} (known : s.get? i = some y) : (s.set i x).Filled := by
  intro j
  have used := filled.lt_size known
  have old : (s.get? j).isSome ↔ j < s.size := filled j
  have size : (s.set i x).size = s.size := by rw [Sequence.set, if_pos used]
  show ((s.set i x).get? j).isSome ↔ j < (s.set i x).size
  rw [get?_set filled known, size]
  by_cases same : j = i
  · simp [same, used]
  · rw [if_neg same, old]

end CodeAudit.Sequence
