import CodeAudit.Proofs.Functions.Listing
import CodeAudit.Proofs.Report.Findings
import CodeAudit.Proofs.Syntax.Keywords
import CodeAudit.Proofs.Text.Rows

/-! Which global declarations are found. They are looked for in the lines and not in the syntax: what is found is the
word with one space behind it, and more than blanks behind that on the same line. -/
namespace CodeAudit

open Syntax Text

namespace Report

/-- Somewhere in a text the word for global declarations stands with a space behind it, and something else further on
in the same line. -/
theorem has_globalVariable_iff (limits : Thresholds) (flow : Flow) (text : List Char) :
    (of limits flow (lines text)).patterns.has .globalVariable ↔
      ∃ before after, text = before ++ "global ".toList ++ after ∧ ∃ c ∈ firstRow after, isBlank c = false := by
  let found (t : List Char) : Prop := "global ".toList <:+: t
  have trimmed : (∃ line ∈ lines text, found (trim line)) ↔ ∃ row ∈ rows text, found (trim row) := by
    have mapped (ls : List (List Char)) : (∃ l ∈ ls, found (trim l)) ↔ ∃ t ∈ ls.map trim, found t := by simp
    rw [mapped, mapped, map_trim_of_returned (returned_lines text)]
  have finds : Finds limits flow (lines text) .globalVariable ↔ ∃ line ∈ lines text, DeclaresGlobal line := by
    simp only [← declaresGlobal_iff]
    rfl
  have word (row : List Char) : found (trim row) ↔
      ∃ before after, row = before ++ "global ".toList ++ after ∧ ∃ c ∈ after, isBlank c = false :=
    infix_trim_iff (g := 'g') (b := ' ') (by decide) (by decide) (by decide) (by decide)
  rw [has_of_iff, finds, ← exists_row_iff (by decide) (by decide) fun after => ∃ c ∈ after, isBlank c = false]
  simp only [← word]
  exact trimmed

end Report

/-- The letters of the keyword. -/
theorem letters_of_globalWord {letters : List Char} (known : Kind.keyword? letters = some .globalWord) :
    letters = "global".toList := by
  obtain ⟨l₁, l₂, whole, -⟩ := List.lookup_eq_some_iff.mp known
  have checked : ∀ e ∈ Kind.keywords, e.2 = .globalWord → e.1 = "global".toList := by decide
  exact checked (letters, .globalWord) (by rw [whole]; simp) rfl

/-- Global declarations are looked for in the lines. The pattern is found exactly if somewhere the word `global` stands
with a space behind it, and with more than blanks behind that on the same line; and it is found for each global
statement that is written in this way. -/
theorem global_statements_found {limits : Thresholds} {text : String} {root : Node} {a : Analysis}
    (accepted : readModule text.toList = .ok root) (analyzed : analyze limits text = .ok a) :
    (a.report.patterns.has .globalVariable ↔ ∃ before after, text.toList = before ++ "global ".toList ++ after ∧
        ∃ c ∈ firstRow after, isBlank c = false) ∧
      ∀ n ∈ Node.nodesOf root.children, n.kind = .globalStatement →
        ∃ before after, text.toList = before ++ "global".toList ++ after ∧ n.label.start.offset = byteCount before ∧
          ∀ rest, after = ' ' :: rest → (∃ c ∈ firstRow rest, isBlank c = false) →
            a.report.patterns.has .globalVariable := by
  obtain ⟨flow, -, rfl⟩ := analyze_eq_ok_iff.mp analyzed
  have found := Report.has_globalVariable_iff limits flow text.toList
  refine ⟨found, fun n member kind => ?_⟩
  obtain ⟨-, -, -, -, all⟩ := children_of_read (FunctionSource.read_of_readModule accepted)
  obtain ⟨before, letters, after, split, start, known⟩ := all _ _ opens_globalStatement.conferred n member kind
  obtain rfl := letters_of_globalWord known
  refine ⟨before, after, split, start, fun rest space more => found.mpr ⟨before, rest, ?_, more⟩⟩
  rw [split, space]
  simp

/-- A statement behind another one, in a block that is no line of its own. -/
theorem global_statements_found_in_block :
    let text := "def f(a):\n    if a: pass; global b  # c\n"
    ∃ root a, readModule text.toList = .ok root ∧ analyze {} text = .ok a ∧
      (∃ n ∈ Node.nodesOf root.children, n.kind = .globalStatement) ∧
      a.report.patterns.has .globalVariable := by
  intro text
  obtain ⟨root, a, accepted, there, analyzed, -⟩ := exists_analysis_of_toOption {} text
    (p := fun root => (Node.nodesOf root.children).any (·.kind = .globalStatement)) (q := fun _ => true)
    (by decide +kernel)
  have found := global_statements_found accepted analyzed
  refine ⟨root, a, accepted, analyzed, by simpa using there, found.1.mpr ?_⟩
  exact ⟨"def f(a):\n    if a: pass; ".toList, "b  # c\n".toList, by decide, 'b', by decide, by decide⟩

/-- A global statement whose keyword stands in front of a tab is not found. -/
theorem global_statement_hidden_by_tab :
    let text := "def f():\n    global\tx\n"
    ∃ root a, readModule text.toList = .ok root ∧ (∃ n ∈ root.nodes, n.kind = .globalStatement) ∧
      analyze {} text = .ok a ∧ ¬ a.report.patterns.has .globalVariable := by
  intro text
  obtain ⟨root, a, accepted, there, analyzed, missed⟩ := exists_analysis_of_toOption {} text
    (p := fun root => root.nodes.any (·.kind = .globalStatement)) (q := fun a => !a.report.patterns.has .globalVariable)
    (by decide +kernel)
  exact ⟨root, a, accepted, by simpa using there, analyzed, by simpa using missed⟩

end CodeAudit
