import CodeAudit.Proofs.CommandLine.Selection
import CodeAudit.Proofs.Functions.Naming
import CodeAudit.Proofs.Report.Patterns

/-! Runs that analyze. Such a run shows either nothing or the results of all functions that were asked for, and how it
ends tells what was to blame or, if it is strict, whether anything was found. -/
namespace CodeAudit

/-- The input is to blame: it has no syntax, it is not the one function that is wanted, or it lacks a function. -/
inductive Cause.BlamesInput : Cause → Prop where
  | badSyntax (line column : Nat) : BlamesInput (.failure (.badSyntax line column))
  | notAFunction (found : Nat) : BlamesInput (.failure (.notAFunction found))
  | functionNotFound (name : String) : BlamesInput (.failure (.functionNotFound name))

theorem Failure.isInvalidInput_iff (f : Failure) : f.isInvalidInput ↔ (Cause.failure f).BlamesInput := by
  constructor
  · intro blamed
    cases f with
    | badSyntax line column => exact .badSyntax line column
    | notAFunction found => exact .notAFunction found
    | functionNotFound name => exact .functionNotFound name
    | _ => simp [isInvalidInput] at blamed
  · rintro (_ | _ | _) <;> rfl

namespace Exit

variable (contexts : List String) (t : Trouble)

theorem ofTrouble_within : ofTrouble (contexts.foldr Trouble.within t) = ofTrouble t := by
  have cause : (contexts.foldr Trouble.within t).cause = t.cause := by
    induction contexts with
    | nil => rfl
    | cons context rest ih => exact ih
  rw [ofTrouble, ofTrouble, Trouble.failure?, Trouble.failure?, cause]

/-- The exit code of a failure tells whether the input is to blame, whatever was being done. -/
theorem code_ofTrouble : (ofTrouble (contexts.foldr Trouble.within t)).code = 2 ∧ t.cause.BlamesInput ∨
    (ofTrouble (contexts.foldr Trouble.within t)).code = 1 ∧ ¬ t.cause.BlamesInput := by
  rw [ofTrouble_within]
  obtain ⟨_, f | text⟩ := t
  · by_cases blamed : f.isInvalidInput
    · exact .inl ⟨by simp [ofTrouble, Trouble.failure?, blamed, code], f.isInvalidInput_iff.mp blamed⟩
    · exact .inr ⟨by simp [ofTrouble, Trouble.failure?, blamed, code], mt f.isInvalidInput_iff.mpr blamed⟩
  · exact .inr ⟨rfl, nofun⟩

end Exit

/-! ### Where failures come from -/

namespace Report

theorem isClean_eq_false_iff (r : Report) : r.isClean = false ↔ ∃ p, r.patterns.has p := by
  rw [isClean, PatternSet.isEmpty, List.isEmpty_eq_false_iff_exists_mem]
  simp only [PatternSet.mem_toList]

end Report

namespace CommandLine

open FunctionSource

/-- What is shown of analyzed functions: their summaries one behind the other, or one JSON text with all of them. -/
def output (colors : Bool) : OutputFormat → List Analyzed → List Char
  | .json, xs => (Json.array (xs.map toJson)).pretty 0 ++ ['\n']
  | .text, [] => Style.dimmed.paint colors "No functions found.".toList ++ ['\n']
  | .text, xs => xs.flatMap fun x => x.2.summary colors x.1.qualifiedName x.1.line

/-- Some function has a pattern. -/
def Finds (xs : List Analyzed) : Prop :=
  ∃ x ∈ xs, ∃ p, x.2.report.patterns.has p

theorem code_exitOf (strict : Bool) (xs : List Analyzed) : (exitOf strict xs).code = 3 ∧ strict ∧ Finds xs ∨
    (exitOf strict xs).code = 0 ∧ ¬ (strict ∧ Finds xs) := by
  have found : xs.any (!·.2.report.isClean) ↔ Finds xs := by
    simp only [List.any_eq_true, Bool.not_eq_true', Report.isClean_eq_false_iff, Finds]
  by_cases both : strict ∧ xs.any (!·.2.report.isClean)
  · exact .inl ⟨by simp only [exitOf, both, Bool.and_self, if_true, Exit.code], both.1, found.mp both.2⟩
  · exact .inr ⟨by simp only [exitOf, Bool.and_eq_true, both, if_false, Exit.code], by rwa [found] at both⟩

/-! ### What a run shows -/

theorem Showing.run_bind {α β : Type} (first : Showing α) (next : α → Showing β) (shown : List Char) :
    (first >>= next).run shown = match first.run shown with
      | (.error t, shown) => (.error t, shown)
      | (.ok a, shown) => (next a).run shown := by
  simp only [ExceptT.run, bind, ExceptT.bind, ExceptT.mk, StateT.bind]
  rcases first shown with ⟨_ | _, _⟩ <;> rfl

theorem run_forM_display (text : Analyzed → List Char) (xs : List Analyzed) (shown : List Char) :
    ExceptT.run (xs.forM fun x => Showing.display (text x)) shown = (.ok (), shown ++ xs.flatMap text) := by
  induction xs generalizing shown with
  | nil => simp only [List.flatMap_nil, List.append_nil]; rfl
  | cons x xs ih =>
    rw [List.flatMap_cons, ← List.append_assoc]
    exact ih (shown ++ text x)

theorem run_showAnalyzed (colors : Bool) (format : OutputFormat) (xs : List Analyzed) (shown : List Char) :
    (showAnalyzed colors format xs).run shown = (.ok (), shown ++ output colors format xs) := by
  cases format with
  | json => rfl
  | text =>
    cases xs with
    | nil => rfl
    | cons x xs => exact run_forM_display _ (x :: xs) shown

/-- Everything is analyzed before anything is shown. -/
theorem run_analyzing (colors : Bool) (read : ReadFile) (r : AnalyzeRequest) (race : Race Trouble)
    (shown : List Char) : (analyzing colors read r race).run shown = match analyzed read r race with
      | .error t => (.error t, shown)
      | .ok xs => (.ok (exitOf r.strict xs), shown ++ output colors r.format xs) := by
  cases outcome : analyzed read r race with
  | error t => rw [analyzing, outcome, Showing.run_bind]; rfl
  | ok xs =>
    have given : (MonadExcept.ofExcept (.ok xs) : Showing (List Analyzed)).run shown = (.ok xs, shown) := rfl
    rw [analyzing, outcome, Showing.run_bind, given]
    dsimp only
    rw [Showing.run_bind, run_showAnalyzed]
    rfl

/-! ### How a run ends -/

section Outcome

variable {read : ReadFile} {r : AnalyzeRequest} {settings : Settings} {module : List Char} {xs : List Analyzed}
  {t : Trouble}

/-- The analyzed functions stand in the module one behind the other. -/
theorem Succeeds.ordered (succeeds : Succeeds read r settings module xs) :
    ∃ sites, List.Forall₂ (Describes module) sites (xs.map (·.1)) ∧
      sites.Pairwise fun a b => a.node.label.stop.offset ≤ b.node.label.start.offset := by
  obtain ⟨fs, listed, selects⟩ := succeeds.selects
  generalize xs.map (·.1) = selected at selects
  generalize r.function = wanted at selects
  cases selects with
  | all =>
    obtain ⟨root, accepted, rfl⟩ := list_eq_ok_iff.mp listed
    obtain ⟨c, c', lists⟩ := lists_of_module accepted
    exact ⟨_, by simpa using lists.each, lists.ordered⟩
  | @first _ f _ _ split =>
    have member : f ∈ fs := by simp [split]
    obtain ⟨s, describes⟩ := describes_of_list listed member
    exact ⟨[s], .cons (by simpa using describes) .nil, List.pairwise_singleton ..⟩

end Outcome

end CommandLine

end CodeAudit
