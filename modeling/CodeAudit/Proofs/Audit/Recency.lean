import CodeAudit.Memo

/-! What a memo holds, in terms of the arguments it was asked for: the distinct ones among the latest, as many as it
has room for, each with the result of its latest run. Arguments are told apart by an equality that may be coarser than
that of their values. -/
namespace CodeAudit

variable {α β : Type} [BEq α] [EquivBEq α]

/-- What is equal to an argument may be left out before or after repetitions are. -/
theorem eraseDups_filter (a : α) (xs : List α) :
    (xs.filter (!· == a)).eraseDups = xs.eraseDups.filter (!· == a) := by
  match xs with
  | [] => rfl
  | x :: xs =>
    have shorter : (xs.filter fun y => !y == x).length < xs.length + 1 :=
      Nat.lt_succ_of_le (List.length_filter_le _ xs)
    rw [List.eraseDups_cons]
    by_cases same : x == a
    · have alike : (xs.filter fun y => !y == x) = xs.filter (!· == a) :=
        List.filter_congr fun y _ => by rw [BEq.congr_right same]
      rw [List.filter_cons_of_neg (by simp [same]), List.filter_cons_of_neg (by simp [same]),
        ← eraseDups_filter a (xs.filter fun y => !y == x), alike, List.filter_filter]
      simp only [Bool.and_self]
    · rw [List.filter_cons_of_pos (by simp [same]), List.eraseDups_cons, List.filter_cons_of_pos (by simp [same]),
        ← eraseDups_filter a (xs.filter fun y => !y == x), List.filter_filter, List.filter_filter]
      simp only [Bool.and_comm]
termination_by xs.length

theorem eraseDups_cons_filter (a : α) (xs : List α) :
    (a :: xs).eraseDups = a :: xs.eraseDups.filter (!· == a) := by
  rw [List.eraseDups_cons, eraseDups_filter]

theorem pairwise_eraseDups (xs : List α) : xs.eraseDups.Pairwise fun x y => (y == x) = false := by
  match xs with
  | [] => exact .nil
  | x :: xs =>
    have shorter : (xs.filter fun y => !y == x).length < xs.length + 1 :=
      Nat.lt_succ_of_le (List.length_filter_le _ xs)
    rw [List.eraseDups_cons, List.pairwise_cons]
    refine ⟨fun y later => ?_, pairwise_eraseDups (xs.filter fun y => !y == x)⟩
    rw [eraseDups_filter] at later
    simpa using (List.mem_filter.mp later).2
termination_by xs.length

/-- The member put in front may be taken out before or after the rest is cut off. -/
theorem take_cons_filter_take (a : α) (c : Nat) {xs : List α} (apart : xs.Pairwise fun x y => (y == x) = false) :
    (a :: (xs.take c).filter (!· == a)).take c = (a :: xs.filter (!· == a)).take c := by
  cases c with
  | zero => rfl
  | succ c =>
    rw [List.take_succ_cons, List.take_succ_cons]
    congr 1
    induction xs generalizing c with
    | nil => rfl
    | cons x xs ih =>
      obtain ⟨absent, apart⟩ := List.pairwise_cons.mp apart
      by_cases same : x == a
      · have others (ys : List α) (within : ∀ y ∈ ys, y ∈ xs) : ys.filter (!· == a) = ys := by
          refine List.filter_eq_self.mpr fun y member => ?_
          rw [← BEq.congr_right same, absent y (within y member)]
          rfl
        have part := others (xs.take c) fun _ => List.mem_of_mem_take
        simp [same, others xs fun _ => id, part, List.take_take]
      · cases c with
        | zero => rfl
        | succ c => simpa [same] using ih apart c

/-- Among the first `c` distinct members is each one before whose first occurrence fewer than `c` others occur. -/
theorem contains_take_eraseDups (a : α) (c : Nat) (xs : List α) :
    (xs.eraseDups.take c).contains a ↔ xs.contains a ∧ (xs.takeWhile (· != a)).eraseDups.length < c := by
  match xs, c with
  | [], c => simp
  | x :: xs, 0 => simp
  | x :: xs, c + 1 =>
    have shorter : (xs.filter fun y => !y == x).length < xs.length + 1 :=
      Nat.lt_succ_of_le (List.length_filter_le _ xs)
    have differs (y : α) : (y != a) = !(a == y) := by rw [bne, BEq.comm]
    rw [List.eraseDups_cons, List.take_succ_cons, List.contains_cons, List.contains_cons]
    by_cases same : a == x
    · simp [same, differs]
    · have unlike {y : α} (alike : a == y) : (y == x) = false := by
        rw [← BEq.congr_left alike]
        simpa using same
      have contained : (xs.filter fun y => !y == x).contains a = xs.contains a := by
        rw [List.contains_filter, List.contains_eq_any_beq]
        congr 1
        funext y
        by_cases alike : a == y <;> simp [alike, unlike]
      have front : (xs.filter fun y => !y == x).takeWhile (· != a) =
          (xs.takeWhile (· != a)).filter fun y => !y == x := by
        rw [List.takeWhile_filter]
        congr 2
        funext y
        by_cases alike : a == y <;> simp [alike, unlike, differs]
      have ih := contains_take_eraseDups a c (xs.filter fun y => !y == x)
      rw [contained, front] at ih
      have others : (x :: xs).takeWhile (· != a) = x :: xs.takeWhile (· != a) :=
        List.takeWhile_cons_of_pos (by simp [same, differs])
      rw [others, List.eraseDups_cons, List.length_cons, Nat.add_lt_add_iff_right]
      simpa [same] using ih
termination_by xs.length

/-- Equal arguments have the same entry. -/
theorem lookup_congr {a b : α} (same : a == b) (xs : List (α × β)) : xs.lookup a = xs.lookup b := by
  induction xs with
  | nil => rfl
  | cons x xs ih => rw [List.lookup_cons, List.lookup_cons, BEq.congr_left same, ih]

omit [EquivBEq α] in
theorem exists_mem_of_lookup {a : α} {b : β} {xs : List (α × β)} (found : xs.lookup a = some b) :
    ∃ k, (k, b) ∈ xs ∧ a == k := by
  induction xs with
  | nil => contradiction
  | cons x xs ih =>
    rw [List.lookup_cons] at found
    cases same : a == x.1 with
    | true =>
      rw [same] at found
      obtain rfl := Option.some.inj found
      exact ⟨x.1, List.mem_cons_self, same⟩
    | false =>
      rw [same] at found
      obtain ⟨k, member, same⟩ := ih found
      exact ⟨k, List.mem_cons_of_mem _ member, same⟩

namespace Memo

/-- What a memo knows after it was asked for the arguments in `recent`, which are those since it was cleared, and the
function has had the runs in `runs`, both from the latest on. -/
structure Follows (m : Memo α β) (recent : List α) (runs : List (α × β)) : Prop where
  arguments : m.entries.map Prod.fst = recent.eraseDups.take m.capacity
  results : ∀ e ∈ m.entries, runs.lookup e.1 = some e.2

variable {m : Memo α β} {recent : List α} {runs : List (α × β)}

omit [EquivBEq α] in
theorem follows_new (capacity : Nat) (runs : List (α × β)) : ({ capacity } : Memo α β).Follows [] runs where
  arguments := by simp
  results := by simp

omit [EquivBEq α] in
theorem clear_follows (m : Memo α β) (runs : List (α × β)) : m.clear.Follows [] runs where
  arguments := by simp [clear]
  results := by simp [clear]

omit [EquivBEq α] in
/-- A memo holds one result for each distinct argument as long as there is room. -/
theorem Follows.size_eq (follows : m.Follows recent runs) : m.size = min m.capacity recent.eraseDups.length := by
  rw [size, ← List.length_map, follows.arguments, List.length_take]

/-- A result is found while fewer other arguments than there is room for came after its own. -/
theorem Follows.found_iff (follows : m.Follows recent runs) (a : α) : (m.find? a).isSome ↔
    recent.contains a ∧ (recent.takeWhile (· != a)).eraseDups.length < m.capacity := by
  rw [← contains_take_eraseDups, ← follows.arguments, find?, Option.isSome_map, List.lookup_isSome_iff,
    List.contains_iff_exists_mem_beq]
  simp

/-- Keys of the entries with that of `a` in front. -/
theorem Follows.arguments_promoted (follows : m.Follows recent runs) (a : α) (b : β) :
    (((a, b) :: m.entries.filter (!·.1 == a)).take m.capacity).map Prod.fst =
      (a :: recent).eraseDups.take m.capacity := by
  have keys : (m.entries.filter (!·.1 == a)).map Prod.fst = (m.entries.map Prod.fst).filter (!· == a) := by
    rw [List.filter_map]
    rfl
  rw [List.map_take, List.map_cons, keys, follows.arguments,
    take_cons_filter_take a m.capacity (pairwise_eraseDups recent), eraseDups_cons_filter]

omit [EquivBEq α] in
/-- What is found for an argument is there for an equal one, and is put in front for the argument itself. -/
theorem find?_eq_some {a : α} {b : β} {m' : Memo α β} (found : m.find? a = some (b, m')) :
    (∃ k, (k, b) ∈ m.entries ∧ a == k) ∧ m' = { m with entries := (a, b) :: m.entries.filter (!·.1 == a) } := by
  obtain ⟨result, known, same⟩ := Option.map_eq_some_iff.mp found
  obtain ⟨rfl, rfl⟩ := Prod.mk.inj same
  exact ⟨exists_mem_of_lookup known, rfl⟩

/-- A found result is that of the latest run, and using it keeps the memo in step. -/
theorem Follows.find?_follows (follows : m.Follows recent runs) {a : α} {b : β} {m' : Memo α β}
    (found : m.find? a = some (b, m')) :
    m'.Follows (a :: recent) runs ∧ m'.capacity = m.capacity ∧ runs.lookup a = some b := by
  obtain ⟨⟨k, member, same⟩, rfl⟩ := find?_eq_some found
  have latest : runs.lookup a = some b := by
    rw [lookup_congr same]
    exact follows.results _ member
  -- Its entry was there before, so that there is room for it in front.
  have room : ((a, b) :: m.entries.filter (!·.1 == a)).length ≤ m.capacity := by
    have fewer : (m.entries.filter (!·.1 == a)).length < m.entries.length :=
      List.length_filter_lt_length_iff_exists.mpr ⟨_, member, by simp [BEq.symm same]⟩
    have held : m.entries.length ≤ m.capacity := by
      rw [← size, follows.size_eq]
      exact Nat.min_le_left _ _
    rw [List.length_cons]
    omega
  refine ⟨⟨?_, ?_⟩, rfl, latest⟩
  · rw [← follows.arguments_promoted a b, List.take_of_length_le room]
  · intro e promoted
    rcases List.mem_cons.mp promoted with rfl | other
    · exact latest
    · exact follows.results e (List.mem_filter.mp other).1

/-- A new result is that of the latest run, and remembering it keeps the memo in step. -/
theorem Follows.insert_follows (follows : m.Follows recent runs) (a : α) (b : β) :
    (m.insert a b).Follows (a :: recent) ((a, b) :: runs) where
  arguments := follows.arguments_promoted a b
  results := by
    intro e member
    rcases List.mem_cons.mp (List.mem_of_mem_take member) with rfl | later
    · simp
    · obtain ⟨kept, different⟩ := List.mem_filter.mp later
      have other : (e.1 == a) = false := by simpa using different
      rw [List.lookup_cons, other]
      exact follows.results e kept

end Memo

end CodeAudit
