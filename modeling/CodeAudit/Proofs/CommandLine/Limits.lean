import CodeAudit.Proofs.CommandLine.Analysis

/-! Raised limits. The higher the limits are, the less is found: what a limit has nothing to do with stays, and what
disappears does so because of its own limit. An analysis that was content before stays so. -/
namespace CodeAudit

/-- No limit is below the one in its place. -/
structure Thresholds.Raised (low high : Thresholds) : Prop where
  nestingDepth : low.maxNestingDepth ≤ high.maxNestingDepth
  conditionals : low.maxConditionals ≤ high.maxConditionals
  lineLength : low.maxLineLength ≤ high.maxLineLength

namespace Report

/-- What raised limits make of a report. -/
structure Eased (low high : Thresholds) (before after : Report) : Prop where
  nestingDepth : after.maxNestingDepth = before.maxNestingDepth
  conditionalDepth : after.conditionalDepth = before.conditionalDepth
  kept : ∀ p, after.patterns.has p → before.patterns.has p
  globalVariable : after.patterns.has .globalVariable = before.patterns.has .globalVariable
  debugPrint : after.patterns.has .debugPrint = before.patterns.has .debugPrint
  longLine : before.patterns.has .longLine → ¬ after.patterns.has .longLine →
    low.maxLineLength < high.maxLineLength
  deepNesting : before.patterns.has .deepNesting → ¬ after.patterns.has .deepNesting →
    low.maxNestingDepth < high.maxNestingDepth
  complexConditionals : before.patterns.has .complexConditionals → ¬ after.patterns.has .complexConditionals →
    low.maxConditionals < high.maxConditionals

/-- A line shows no more under a higher limit. -/
theorem inLine_antitone {longest longer : Nat} (raised : longest ≤ longer) {line : List Char} {p : Pattern}
    (shown : p.InLine longer line) : p.InLine longest line := by
  cases p with
  | longLine => exact ⟨shown.1, shown.2.1, Nat.lt_of_le_of_lt raised shown.2.2⟩
  | _ => exact shown

variable {low high : Thresholds}

theorem finds_antitone (raised : low.Raised high) {flow : Flow} {lines : List (List Char)} {p : Pattern}
    (found : Finds high flow lines p) : Finds low flow lines p := by
  cases p with
  | deepNesting => exact Nat.lt_of_le_of_lt raised.nestingDepth found
  | complexConditionals => exact Nat.lt_of_le_of_lt raised.conditionals found
  | _ =>
    obtain ⟨line, member, shown⟩ := found
    exact ⟨line, member, inLine_antitone raised.lineLength shown⟩

theorem of_raised (raised : low.Raised high) (flow : Flow) (lines : List (List Char)) :
    Eased low high (of low flow lines) (of high flow lines) where
  nestingDepth := rfl
  conditionalDepth := rfl
  kept p found := (has_of_iff ..).mpr (finds_antitone raised ((has_of_iff ..).mp found))
  globalVariable := by
    rw [Bool.eq_iff_iff, has_of_iff, has_of_iff]
    exact .rfl
  debugPrint := by
    rw [Bool.eq_iff_iff, has_of_iff, has_of_iff]
    exact .rfl
  longLine found lost := by
    rw [has_of_iff] at found lost
    obtain ⟨line, member, other, silent, long⟩ := found
    refine Nat.lt_of_not_le fun lowered => lost ⟨line, member, other, silent, ?_⟩
    exact Nat.lt_of_le_of_lt lowered long
  deepNesting found lost := by
    rw [has_of_iff] at found lost
    exact Nat.lt_of_not_le fun lowered => lost (Nat.lt_of_le_of_lt lowered found)
  complexConditionals found lost := by
    rw [has_of_iff] at found lost
    exact Nat.lt_of_not_le fun lowered => lost (Nat.lt_of_le_of_lt lowered found)

end Report

namespace CommandLine

/-- The exit code of an analysis. -/
def exitCode (colors : Bool) (read : ReadFile) (r : AnalyzeRequest) (race : Race Trouble) : Nat :=
  (finished colors ((analyzing colors read r race).run [])).code

theorem exitCode_eq_zero_iff {colors : Bool} {read : ReadFile} {r : AnalyzeRequest} {race : Race Trouble} :
    exitCode colors read r race = 0 ↔ ∃ xs, analyzed read r race = .ok xs ∧ ¬ (r.strict ∧ Finds xs) := by
  rw [exitCode, run_analyzing]
  cases outcome : analyzed read r race with
  | error t =>
    refine iff_of_false (fun zero : (Exit.ofTrouble t).code = 0 => ?_) (by simp)
    rcases Exit.code_ofTrouble [] t with ⟨code, -⟩ | ⟨code, -⟩
    · exact absurd (code.symm.trans zero) (by decide)
    · exact absurd (code.symm.trans zero) (by decide)
  | ok xs =>
    simp only [Except.ok.injEq, exists_eq_left']
    rcases code_exitOf r.strict xs with ⟨code, strict, found⟩ | ⟨code, content⟩
    · exact iff_of_false (fun zero => absurd (code.symm.trans zero) (by decide)) (not_not_intro ⟨strict, found⟩)
    · exact iff_of_true code content

variable {low high : Thresholds} {xs : List Analyzed}

/-- The same functions are analyzed under raised limits, and a pattern that is found then was found before. -/
theorem exists_eased (raised : low.Raised high) (each : ∀ x ∈ xs, analyze low x.1.source = .ok x.2) :
    ∃ ys : List Analyzed, ys.map (·.1) = xs.map (·.1) ∧ (∀ y ∈ ys, analyze high y.1.source = .ok y.2) ∧
      (Finds ys → Finds xs) := by
  induction xs with
  | nil => exact ⟨[], rfl, by simp, id⟩
  | cons x xs ih =>
    obtain ⟨first, others⟩ := List.forall_mem_cons.mp each
    obtain ⟨ys, same, each', finds⟩ := ih others
    obtain ⟨flow, read, analysis⟩ := analyze_eq_ok_iff.mp first
    let lines := Text.lines x.1.source.toList
    let y : Analyzed := (x.1, { complexity := flow.complexity, report := .of high flow lines })
    refine ⟨y :: ys, by rw [List.map_cons, List.map_cons, same],
      List.forall_mem_cons.mpr ⟨analyze_eq_ok_iff.mpr ⟨flow, read, rfl⟩, each'⟩, ?_⟩
    rintro ⟨z, member, p, found⟩
    rcases List.mem_cons.mp member with rfl | later
    · refine ⟨x, List.mem_cons_self, p, ?_⟩
      rw [analysis]
      exact (Report.of_raised raised flow lines).kept p found
    · obtain ⟨z', member', found'⟩ := finds ⟨z, later, p, found⟩
      exact ⟨z', List.mem_cons_of_mem _ member', found'⟩

/-- Raised limits change no measure and find nothing new; they lose only what a raised limit is about. An analysis whose
exit code was that of success has the same exit code when nothing but its limits is raised. -/
theorem raised_limits (raised : low.Raised high) :
    (∀ flow lines, Report.Eased low high (.of low flow lines) (.of high flow lines)) ∧
    ∀ (colors : Bool) (read read' : ReadFile) (r r' : AnalyzeRequest) (settings settings' : Settings)
      (module : List Char), Given read r settings module → Given read' r' settings' module →
      settings.thresholds = low → settings'.thresholds = high → r'.function = r.function → r'.strict = r.strict →
      ∀ race race' : Race Trouble, exitCode colors read r race = 0 → exitCode colors read' r' race' = 0 := by
  refine ⟨fun flow lines => Report.of_raised raised flow lines, ?_⟩
  rintro colors read read' r r' settings settings' module given given' rfl rfl function strict race race' content
  obtain ⟨xs, outcome, content⟩ := exitCode_eq_zero_iff.mp content
  obtain ⟨chosen, each⟩ := (analyzed_eq_ok_iff given).mp outcome
  obtain ⟨ys, same, each', finds⟩ := exists_eased raised each
  refine exitCode_eq_zero_iff.mpr ⟨ys, (analyzed_eq_ok_iff given').mpr ⟨?_, each'⟩, ?_⟩
  · rw [function, same, chosen]
  · rw [strict]
    exact fun ⟨strict, found⟩ => content ⟨strict, finds found⟩

/-- A settings file comes to allow longer lines. One that was too long no longer is, and a strict analysis that found
none stays content. -/
theorem strict_exit_of_longer_lines :
    let module := "def f(x):\n  return x\n".toList
    let files (settings : String) : ReadFile := fun path =>
      if path = "m.py" then .ok module else if path = "copilot.toml" then .ok settings.toList else .error .missing
    let before := files "[thresholds]\nmax_line_length = 20\n"
    let after := files "[thresholds]\nmax_line_length = 30\n"
    let r : AnalyzeRequest := { file := "m.py", strict := true }
    let low : Thresholds := { maxLineLength := 20 }
    let high : Thresholds := { maxLineLength := 30 }
    let report (limits : Thresholds) : Report :=
      .of limits (.node .conditional []) ["  return some_name + other".toList, "debug".toList]
    low.Raised high ∧ Report.Eased low high (report low) (report high) ∧
      (report low).patterns.toList = [.longLine] ∧ (report high).patterns.toList = [] ∧
      Given before r { thresholds := low } module ∧ Given after r { thresholds := high } module ∧
      exitCode false before r .first = 0 ∧ exitCode false after r .first = 0 := by
  intro module files before after r low high report
  have raised : low.Raised high := ⟨by decide, by decide, by decide⟩
  have given : Given before r { thresholds := low } module :=
    ⟨eq_ok_of_toOption (by decide +kernel), rfl⟩
  have given' : Given after r { thresholds := high } module :=
    ⟨eq_ok_of_toOption (by decide +kernel), rfl⟩
  have content : exitCode false before r .first = 0 := by decide +kernel
  obtain ⟨eased, codes⟩ := raised_limits raised
  exact ⟨raised, eased _ _, by decide +kernel, by decide +kernel, given, given', content,
    codes false before after r r _ _ module given given' rfl rfl rfl rfl .first .first content⟩

end CommandLine

end CodeAudit
