import CodeAudit.Syntax.Parser

/-! What the automaton may propose, whatever its state: only reductions of the grammar, to take for extra only what is
extra, and never to shift text that is no token. -/
namespace CodeAudit.Syntax

/-- What is proposed only to a parser that has not lost its way. -/
def Action.moves : Action → Bool
  | .shift .. | .reduce _ | .accept => true
  | _ => false

namespace Automaton

variable {state code : Nat} {k : Kind} {r : Reduction}

theorem mem_reductions_of_offered {count offer : Nat} (member : r ∈ offered code count offer) :
    r ∈ Grammar.reductions := by
  induction count generalizing offer with
  | zero => exact absurd member List.not_mem_nil
  | succ count ih =>
    unfold offered at member
    split at member
    · exact absurd member List.not_mem_nil
    dsimp only at member
    split at member
    · split at member
      · next s found =>
        rcases List.mem_cons.mp member with rfl | later
        · exact List.mem_of_getElem? found
        · exact ih later
      · exact ih member
    · exact ih member

theorem mem_of_item? {α : Type} {pages : List (Page α)} {i : Nat} {x : α} (found : item? pages i = some x) :
    ∃ page ∈ pages, x ∈ page := by
  unfold item? at found
  split at found
  · next page there => exact ⟨page, List.mem_of_getElem? there, List.mem_of_getElem? found⟩
  · contradiction

/-- The moves that the rows hold for a code all have a property. -/
def movesSatisfy (rows : List (Page Row)) (code : Nat) (fine : Nat → Bool) : Bool :=
  rows.all (·.all (·.tail.all fun n => (change? code 16 n).all fine))

theorem satisfied_of_move? {rows : List (Page Row)} {fine : Nat → Bool} {steps row m : Nat}
    (checked : movesSatisfy rows code fine) (found : move? rows code steps row = some m) : fine m := by
  induction steps generalizing row with
  | zero => contradiction
  | succ steps ih =>
    unfold move? at found
    split at found
    · next base changes there =>
      split at found
      · next move first =>
        split at found
        · contradiction
        · obtain rfl := Option.some.inj found
          obtain ⟨page, member, member'⟩ := mem_of_item? there
          obtain ⟨n, listed, change⟩ := List.exists_of_findSome?_eq_some first
          simp only [movesSatisfy, List.all_eq_true] at checked
          have fine := checked page member _ member' n listed
          rwa [change] at fine
      · split at found
        · contradiction
        · exact ih found
    · contradiction

/-- Text that is no token is never shifted. -/
theorem shift?_error (state : Nat) : shift? state .error = none := by
  have checked : movesSatisfy shiftRows (Kind.ctorIdx .error) (fun _ => false) := by decide +kernel
  rw [shift?, Option.map_eq_none_iff, Option.eq_none_iff_forall_ne_some]
  intro m found
  exact absurd (satisfied_of_move? checked found) (by decide)

/-- The state behind a token to which every move for it leads. -/
theorem target_of_shift? {state target found : Nat} {onward : Bool}
    (checked : movesSatisfy shiftRows k.ctorIdx (· % 4096 = target)) (shifted : shift? state k = some (found, onward)) :
    found = target := by
  obtain ⟨m, moved, same⟩ := Option.map_eq_some_iff.mp shifted
  have fine := satisfied_of_move? checked moved
  rw [← (Prod.mk.inj same).1]
  exact of_decide_eq_true fine

/-- What is proposed in a state before a token, and the ground for it. -/
inductive Proposes (state : Nat) (k : Kind) : Action → Prop where
  | shift {target : Nat} {onward : Bool} (found : shift? state k = some (target, onward)) :
    Proposes state k (.shift target onward)
  | shiftExtra (extra : k.isExtra = true) : Proposes state k .shiftExtra
  | reduce {r : Reduction} (offered : r ∈ reductionsBefore state k) : Proposes state k (.reduce r)
  | accept (ended : k = .endOfInput) : Proposes state k .accept
  | recover : Proposes state k .recover

theorem proposes_of_mem {action : Action} (member : action ∈ actions state k) : Proposes state k action := by
  unfold actions at member
  split at member
  · next extra =>
    obtain rfl := List.mem_singleton.mp member
    exact .shiftExtra extra
  split at member
  · split at member
    · obtain rfl := List.mem_singleton.mp member
      exact .recover
    · exact absurd member List.not_mem_nil
  split at member
  · next final =>
    obtain rfl := List.mem_singleton.mp member
    simp only [Bool.and_eq_true, decide_eq_true_eq] at final
    exact .accept final.2
  rcases List.mem_append.mp member with reduction | shift
  · obtain ⟨r, offered, rfl⟩ := List.mem_map.mp reduction
    exact .reduce offered
  · split at shift
    · next found =>
      obtain rfl := List.mem_singleton.mp shift
      exact .shift found
    · exact absurd shift List.not_mem_nil

theorem going_of_moves {action : Action} (member : action ∈ actions state k) (moves : action.moves) : state ≠ lost := by
  rintro rfl
  unfold actions at member
  split at member
  · obtain rfl := List.mem_singleton.mp member
    contradiction
  rw [if_pos rfl] at member
  split at member
  · obtain rfl := List.mem_singleton.mp member
    contradiction
  · exact absurd member List.not_mem_nil

/-- There is a state of its own behind a token that may not stand anywhere. -/
theorem shift?_of_behind? {target : Nat} (placed : k.isExtra = false) (found : behind? state k = some target) :
    ∃ onward, shift? state k = some (target, onward) := by
  unfold behind? at found
  split at found
  · next last =>
    obtain rfl := Option.some.inj found
    cases proposes_of_mem (List.mem_of_getLast? last) with
    | shift found => exact ⟨_, found⟩
  · next last =>
    cases proposes_of_mem (List.mem_of_getLast? last) with
    | shiftExtra extra => simp [placed] at extra
  · contradiction

/-- Behind a token that leads on, the parser had not lost its way. -/
theorem going_of_behind? {target : Nat} (found : behind? state k = some target) (onward : target ≠ state) :
    state ≠ lost := by
  unfold behind? at found
  split at found
  · next last => exact going_of_moves (List.mem_of_getLast? last) rfl
  · exact absurd (Option.some.inj found).symm onward
  · contradiction

/-- What may be proposed before a token. -/
inductive Proposed (k : Kind) : Action → Prop where
  | shift (target : Nat) (onward : Bool) (token : k ≠ .error) : Proposed k (.shift target onward)
  | shiftExtra (extra : k.isExtra = true) : Proposed k .shiftExtra
  | reduce (r : Reduction) (known : r ∈ Grammar.reductions) : Proposed k (.reduce r)
  | accept (ended : k = .endOfInput) : Proposed k .accept
  | recover : Proposed k .recover

theorem proposed_of_mem_actions {action : Action} (member : action ∈ actions state k) : Proposed k action := by
  cases proposes_of_mem member with
  | shift found =>
    refine .shift _ _ ?_
    rintro rfl
    rw [shift?_error] at found
    contradiction
  | shiftExtra extra => exact .shiftExtra extra
  | reduce offered => exact .reduce _ (mem_reductions_of_offered offered)
  | accept ended => exact .accept ended
  | recover => exact .recover

end Automaton

/-- All productions of a reduction ask for as many children. -/
theorem Grammar.places_length {r : Reduction} (known : r ∈ Grammar.reductions) {p : Production} (member : p ∈ r) :
    p.places.length = r.length := by
  have checked : Grammar.reductions.all (fun r => r.all fun p => p.places.length = r.length) = true := by
    decide +kernel
  simp only [List.all_eq_true, decide_eq_true_eq] at checked
  exact checked r known p member

end CodeAudit.Syntax
