import CodeAudit.Proofs.Flow.Ways

/-! Measures in machine words. What is measured with numbers of any size is also what is computed with words of 64 bits,
step by step and with a check for each sum, exactly as long as the measures themselves have room in a word. -/
namespace CodeAudit

/-- A number that has room in a word. -/
def word? (n : Nat) : Option Nat :=
  if n < 2 ^ 64 then some n else none

theorem word?_of_lt {n : Nat} (room : n < 2 ^ 64) : word? n = some n :=
  if_pos room

theorem word?_of_le {n : Nat} (full : 2 ^ 64 ≤ n) : word? n = none :=
  if_neg (Nat.not_lt_of_le full)

/-- A word is computed on the way to a result. The result is lost if it has no room. -/
theorem bind_word? {α : Type} {n : Nat} {next : Nat → Option α} {result : Option α}
    (continued : n < 2 ^ 64 → next n = result) (lost : 2 ^ 64 ≤ n → result = none) :
    word? n >>= next = result := by
  rcases Nat.lt_or_ge n (2 ^ 64) with room | full
  · rw [word?_of_lt room, Option.bind_eq_bind, Option.bind_some]
    exact continued room
  · rw [word?_of_le full, lost full]
    rfl

/-- If a number has no room, no sum with it has. -/
theorem bind_word?_add {α : Type} (a b : Nat) (next : Nat → Option α) :
    (word? a >>= fun x => word? (b + x) >>= next) = word? (b + a) >>= next :=
  bind_word? (fun _ => rfl) fun full => by
    rw [word?_of_le (Nat.le_trans full (Nat.le_add_left ..))]
    rfl

namespace Flow

/-! ### Decision points -/

mutual

def decisionPoints? : Flow → Option Nat
  | node s cs => do
    let own ← word? s.decisionPoints
    let below ← decisionPointsOf? 0 cs
    word? (own + below)

/-- The decision points of trees, beside what has been counted already. -/
def decisionPointsOf? (found : Nat) : List Flow → Option Nat
  | [] => some found
  | t :: ts => do
    let points ← decisionPoints? t
    let both ← word? (found + points)
    decisionPointsOf? both ts

end

def complexity? (t : Flow) : Option Nat := do
  let points ← t.decisionPoints?
  word? (1 + points)

mutual

theorem decisionPoints?_eq : ∀ t : Flow, t.decisionPoints? = word? t.decisionPoints
  | .node s cs => by
    rw [decisionPoints?, decisionPoints, decisionPointsOf?_eq (Nat.two_pow_pos 64) cs, Nat.zero_add]
    refine bind_word? (fun _ => ?_) fun full => word?_of_le (Nat.le_trans full (Nat.le_add_right ..))
    simpa using bind_word?_add (decisionPointsOf cs) s.decisionPoints some

theorem decisionPointsOf?_eq {found : Nat} (room : found < 2 ^ 64) : ∀ ts : List Flow,
    decisionPointsOf? found ts = word? (found + decisionPointsOf ts)
  | [] => (word?_of_lt room).symm
  | t :: ts => by
    rw [decisionPointsOf?, decisionPointsOf, decisionPoints?_eq t, bind_word?_add, ← Nat.add_assoc]
    exact bind_word? (fun both => decisionPointsOf?_eq both ts) fun full =>
      word?_of_le (Nat.le_trans full (Nat.le_add_right ..))

end

/-- The complexity is computed as long as it has room. -/
theorem complexity?_eq (t : Flow) : t.complexity? = word? t.complexity := by
  rw [complexity?, complexity, decisionPoints?_eq]
  simpa using bind_word?_add t.decisionPoints 1 some

/-! ### Nesting -/

/-- A level and a number of decisions that have room in words. -/
def Nesting.words? (n : Nesting) : Option Nesting :=
  if n.deepest < 2 ^ 64 ∧ n.decisions < 2 ^ 64 then some n else none

mutual

def nesting? (level : Nat) : Flow → Option Nesting
  | node s cs =>
    if s.isDecision then do
      let inner ← word? (level + 1)
      nestingOf? inner ⟨inner, 1⟩ cs
    else nestingOf? level ⟨level, 0⟩ cs

def nestingOf? (level : Nat) (found : Nesting) : List Flow → Option Nesting
  | [] => some found
  | t :: ts => do
    let next ← nesting? level t
    let decisions ← word? (found.decisions + next.decisions)
    nestingOf? level ⟨max found.deepest next.deepest, decisions⟩ ts

end

theorem Nesting.words?_of_full {n : Nesting} (full : 2 ^ 64 ≤ n.deepest ∨ 2 ^ 64 ≤ n.decisions) : n.words? = none :=
  if_neg (by omega)

/-- What has been found is part of what is found in the end. -/
theorem le_nestingOf {level : Nat} (found : Nesting) (reached : level ≤ found.deepest) (ts : List Flow) :
    found.deepest ≤ (nestingOf level found ts).deepest ∧ found.decisions ≤ (nestingOf level found ts).decisions := by
  rw [nestingOf_eq level found ts reached]
  exact ⟨Nat.le_max_left .., Nat.le_add_right ..⟩

mutual

/-- The nesting is computed as long as the deepest level and the number of decisions have room. -/
theorem nesting?_eq {level : Nat} (room : level < 2 ^ 64) : ∀ t : Flow, t.nesting? level = (t.nesting level).words?
  | .node s cs => by
    rw [nesting?, nesting]
    by_cases decision : s.isDecision
    · rw [if_pos decision, if_pos decision]
      have deeper := (le_nestingOf ⟨level + 1, 1⟩ (Nat.le_refl _) cs).1
      exact bind_word? (nestingOf?_eq ⟨level + 1, 1⟩ (Nat.le_refl _) · (Nat.one_lt_two_pow (by decide)) cs)
        fun full => Nesting.words?_of_full (.inl (Nat.le_trans full deeper))
    · rw [if_neg decision, if_neg decision]
      exact nestingOf?_eq ⟨level, 0⟩ (Nat.le_refl _) room (Nat.two_pow_pos 64) cs

theorem nestingOf?_eq {level : Nat} (found : Nesting) (reached : level ≤ found.deepest)
    (deepest : found.deepest < 2 ^ 64) (decisions : found.decisions < 2 ^ 64) : ∀ ts : List Flow,
    nestingOf? level found ts = (nestingOf level found ts).words?
  | [] => (if_pos ⟨deepest, decisions⟩).symm
  | t :: ts => by
    let next := t.nesting level
    let both := found.beside next
    have reached' : level ≤ both.deepest := Nat.le_trans reached (Nat.le_max_left ..)
    obtain ⟨deeper, more⟩ := le_nestingOf both reached' ts
    rw [nestingOf?, nestingOf, nesting?_eq (Nat.lt_of_le_of_lt reached deepest) t]
    by_cases room : next.deepest < 2 ^ 64 ∧ next.decisions < 2 ^ 64
    · have kept : (t.nesting level).words? = some next := if_pos room
      rw [kept, Option.bind_eq_bind, Option.bind_some]
      exact bind_word? (nestingOf?_eq both reached' (Nat.max_lt.mpr ⟨deepest, room.1⟩) · ts)
        fun full => Nesting.words?_of_full (.inr (Nat.le_trans full more))
    · have lost : (t.nesting level).words? = none := if_neg room
      have full : 2 ^ 64 ≤ both.deepest ∨ 2 ^ 64 ≤ both.decisions := by
        rcases Nat.lt_or_ge next.deepest (2 ^ 64) with shallow | deep
        · exact .inr (Nat.le_trans (Nat.le_of_not_lt fun few => room ⟨shallow, few⟩) (Nat.le_add_left ..))
        · exact .inl (Nat.le_trans deep (Nat.le_max_right ..))
      rw [lost, Nesting.words?_of_full (full.imp (Nat.le_trans · deeper) (Nat.le_trans · more))]
      rfl

end

/-- All measures of a tree are computed if its complexity has room. -/
theorem measures?_eq {t : Flow} (room : t.complexity < 2 ^ 64) :
    t.complexity? = some t.complexity ∧ t.nesting? 0 = some (t.nesting 0) := by
  have decisions := tally_lt_complexity t
  have deepest := (height_le_tally t).1
  refine ⟨(complexity?_eq t).trans (word?_of_lt room), (nesting?_eq (Nat.two_pow_pos 64) t).trans (if_pos ?_)⟩
  rw [nesting_eq]
  dsimp only
  omega

end Flow

end CodeAudit
