import CodeAudit.Analyzer
import CodeAudit.Proofs.Data.Result

/-! Which patterns are in a report. A pattern of lines is there if some line shows it and no pattern that goes before it
in that line; a pattern of the nesting is there if its limit is passed. -/
namespace CodeAudit

namespace Pattern

variable {longest : Nat} {line : List Char}

/-- What makes a line show a pattern, once the blanks around it are gone. -/
def InLine (longest : Nat) (line : List Char) : Pattern → Prop
  | globalVariable => declaresGlobal line
  | debugPrint => ¬ declaresGlobal line ∧ printsDebug line
  | longLine => ¬ declaresGlobal line ∧ ¬ printsDebug line ∧ longest < line.length
  | deepNesting | complexConditionals => False

theorem ofLine?_eq_some_iff (p : Pattern) : ofLine? longest line = some p ↔ p.InLine longest (Text.trim line) := by
  unfold ofLine?
  dsimp only
  by_cases declares : declaresGlobal (Text.trim line)
  · cases p <;> simp [InLine, declares]
  by_cases prints : printsDebug (Text.trim line)
  · cases p <;> simp [InLine, declares, prints]
  by_cases long : longest < (Text.trim line).length <;> cases p <;> simp [InLine, declares, prints, long]

end Pattern

namespace Report

/-- What puts a pattern into a report. -/
def Finds (limits : Thresholds) (flow : Flow) (lines : List (List Char)) : Pattern → Prop
  | .deepNesting => limits.maxNestingDepth < (flow.nesting 0).deepest
  | .complexConditionals => limits.maxConditionals < (flow.nesting 0).decisions
  | p => ∃ line ∈ lines, p.InLine limits.maxLineLength (Text.trim line)

variable (limits : Thresholds) (flow : Flow) (lines : List (List Char))

theorem mem_patterns (n : Flow.Nesting) (p : Pattern) : p ∈ n.patterns limits ↔
    (p = .deepNesting ∧ limits.maxNestingDepth < n.deepest) ∨
      (p = .complexConditionals ∧ limits.maxConditionals < n.decisions) := by
  unfold Flow.Nesting.patterns
  by_cases deep : limits.maxNestingDepth < n.deepest <;>
    by_cases many : limits.maxConditionals < n.decisions <;> simp [deep, many]

theorem has_of_iff (p : Pattern) : (of limits flow lines).patterns.has p ↔ Finds limits flow lines p := by
  have listed : (of limits flow lines).patterns.has p ↔
      (∃ line ∈ lines, p.InLine limits.maxLineLength (Text.trim line)) ∨ p ∈ (flow.nesting 0).patterns limits := by
    simp only [of, PatternSet.has_ofList, List.contains_iff_mem, List.mem_append, List.mem_filterMap,
      Pattern.ofLine?_eq_some_iff]
  rw [listed, mem_patterns]
  cases p <;> simp [Finds, Pattern.InLine]

end Report

theorem analyze_eq_ok_iff {limits : Thresholds} {text : String} {a : Analysis} : analyze limits text = .ok a ↔
    ∃ flow, Flow.parse text.toList = .ok flow ∧
      a = { complexity := flow.complexity, report := .of limits flow (Text.lines text.toList) } := by
  unfold analyze
  cases Flow.parse text.toList <;> simp [Except.map, eq_comm]

/-- The syntax of a text and its analysis, computed together. -/
theorem exists_analysis_of_toOption (limits : Thresholds) (text : String) {p : Syntax.Node → Bool}
    {q : Analysis → Bool}
    (given : (readModule text.toList).toOption.any fun root => p root &&
      (Flow.ofModule root).toOption.any fun flow =>
        q { complexity := flow.complexity, report := .of limits flow (Text.lines text.toList) }) :
    ∃ root a, readModule text.toList = .ok root ∧ p root ∧ analyze limits text = .ok a ∧ q a := by
  obtain ⟨root, accepted, both⟩ := exists_ok_of_toOption given
  obtain ⟨syntactic, alone⟩ := Bool.and_eq_true_iff.mp both
  obtain ⟨flow, made, shown⟩ := exists_ok_of_toOption alone
  have parsed : Flow.parse text.toList = .ok flow := by rw [Flow.parse, accepted]; exact made
  exact ⟨root, _, accepted, syntactic, analyze_eq_ok_iff.mpr ⟨flow, parsed, rfl⟩, shown⟩

end CodeAudit
