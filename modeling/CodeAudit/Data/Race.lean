/-!
Computations side by side. If all of them succeed, their results come in the order of the computations. If some fail,
one of the failures is reported; which one, a race decides.
-/
namespace CodeAudit

/-- What a computation failed with, if it did. -/
def failure? {ε α : Type} : Except ε α → Option ε
  | .ok _ => none
  | .error e => some e

theorem eq_error_of_failure? {ε α : Type} {x : Except ε α} {e : ε} (given : failure? x = some e) : x = .error e := by
  cases x with
  | ok => contradiction
  | error => rw [Option.some.inj given]

/-- Who wins among failures that are given in the order of the computations. -/
structure Race (ε : Type) where
  winner : ε → List ε → ε
  winner_mem : ∀ e es, winner e es ∈ e :: es

namespace Race

variable {ε α : Type} (race : Race ε) {outcomes : List (Except ε α)} {e : ε} {as : List α}

/-- The first failure wins. -/
def first : Race ε where
  winner e _ := e
  winner_mem _ _ := List.mem_cons_self

/-- A failure wins wherever it takes part. -/
def favoring [DecidableEq ε] (favorite : ε) : Race ε where
  winner e es := if favorite ∈ e :: es then favorite else e
  winner_mem e es := by
    split
    · assumption
    · exact List.mem_cons_self

/-- All results, or the failure that wins. -/
def collect (outcomes : List (Except ε α)) : Except ε (List α) :=
  match outcomes.filterMap failure? with
  | [] => .ok (outcomes.filterMap Except.toOption)
  | e :: es => .error (race.winner e es)

theorem mem_failures_iff : e ∈ outcomes.filterMap failure? ↔ .error e ∈ outcomes := by
  rw [List.mem_filterMap]
  constructor
  · rintro ⟨x, member, failed⟩
    exact eq_error_of_failure? failed ▸ member
  · exact fun member => ⟨_, member, rfl⟩

theorem collect_of_results (as : List α) : race.collect (as.map .ok) = .ok as := by
  have none : (as.map (Except.ok (ε := ε))).filterMap failure? = [] := by simp [failure?]
  have all : (as.map (Except.ok (ε := ε))).filterMap Except.toOption = as := by
    rw [List.filterMap_map]
    exact List.filterMap_some
  rw [collect, none, all]

theorem exists_results (outcomes : List (Except ε α)) (succeeded : outcomes.filterMap failure? = []) :
    ∃ as : List α, outcomes = as.map .ok := by
  induction outcomes with
  | nil => exact ⟨[], rfl⟩
  | cons x xs ih =>
    cases x with
    | error => contradiction
    | ok a =>
      obtain ⟨as, rfl⟩ := ih succeeded
      exact ⟨a :: as, rfl⟩

/-- Either what is reported is one of the failures, or nothing failed. -/
theorem collect_cases (outcomes : List (Except ε α)) :
    (∃ e, .error e ∈ outcomes ∧ race.collect outcomes = .error e) ∨
      ∃ as : List α, outcomes = as.map .ok ∧ race.collect outcomes = .ok as := by
  cases failures : outcomes.filterMap failure? with
  | nil =>
    obtain ⟨as, rfl⟩ := exists_results outcomes failures
    exact .inr ⟨as, rfl, race.collect_of_results as⟩
  | cons e es =>
    refine .inl ⟨race.winner e es, mem_failures_iff.mp ?_, by rw [collect, failures]⟩
    rw [failures]
    exact race.winner_mem e es

theorem collect_eq_ok_iff : race.collect outcomes = .ok as ↔ outcomes = as.map .ok := by
  refine ⟨fun done => ?_, fun same => same ▸ race.collect_of_results as⟩
  obtain ⟨e, -, failed⟩ | ⟨bs, same, done'⟩ := race.collect_cases outcomes
  · rw [failed] at done
    contradiction
  · obtain rfl := Except.ok.inj (done'.symm.trans done)
    exact same

theorem mem_of_collect (failed : race.collect outcomes = .error e) : .error e ∈ outcomes := by
  obtain ⟨e', member, failed'⟩ | ⟨as, -, done⟩ := race.collect_cases outcomes
  · rw [Except.error.inj (failed.symm.trans failed')]
    exact member
  · rw [failed] at done
    contradiction

/-- Any failure may be the one that is reported. -/
theorem collect_favoring [DecidableEq ε] (member : .error e ∈ outcomes) :
    (favoring e).collect outcomes = .error e := by
  have within : e ∈ outcomes.filterMap failure? := mem_failures_iff.mpr member
  cases failures : outcomes.filterMap failure? with
  | nil => exact absurd (failures ▸ within) List.not_mem_nil
  | cons e' es =>
    rw [failures] at within
    simp only [collect, failures, favoring, if_pos within]

end Race

end CodeAudit
