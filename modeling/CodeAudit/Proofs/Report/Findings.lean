import CodeAudit.Proofs.Flow.Ways
import CodeAudit.Proofs.Text.Words

/-! What a report depends on. Its patterns of lines are told by the words in the lines, in whatever order and however
often these come, and its patterns of nesting by the decisions on the ways down; neither depend on the other. -/
namespace CodeAudit

/-- Whether a pattern shows in the nesting of a function and not in its lines. -/
def Pattern.isOfNesting : Pattern → Bool
  | .deepNesting | .complexConditionals => true
  | _ => false

namespace Report

open Text

/-- A line that declares a global variable. -/
def DeclaresGlobal (line : List Char) : Prop :=
  "global ".toList <:+: trim line

/-- A line that prints and, with all letters made small, speaks of debugging. -/
def PrintsDebug (lowercase : List Char → List Char) (line : List Char) : Prop :=
  "print(".toList <:+: trim line ∧ "debug".toList <:+: lowercase (trim line)

/-- What there is to a pattern. In a line each pattern of lines hides those behind it. -/
def Shows (lowercase : List Char → List Char) (limits : Thresholds) (flow : Flow) (lines : List (List Char)) :
    Pattern → Prop
  | .globalVariable => ∃ line ∈ lines, DeclaresGlobal line
  | .debugPrint => ∃ line ∈ lines, ¬ DeclaresGlobal line ∧ PrintsDebug lowercase line
  | .longLine => ∃ line ∈ lines, ¬ DeclaresGlobal line ∧ ¬ PrintsDebug lowercase line ∧
      limits.maxLineLength < (trim line).length
  | .deepNesting => ∃ way, Flow.Way flow way ∧ limits.maxNestingDepth < Flow.decisionsAmong way
  | .complexConditionals => limits.maxConditionals < Flow.decisionsAmong flow.nodes

/-- The same lines in any order and each any number of times, with any blanks around them. -/
structure SameLines (lines lines' : List (List Char)) : Prop where
  kept : ∀ line ∈ lines, ∃ line' ∈ lines', Respaced line line'
  known : ∀ line' ∈ lines', ∃ line ∈ lines, Respaced line line'

variable {lowercase : List Char → List Char} {limits : Thresholds} {flow flow' : Flow}
  {lines lines' : List (List Char)}

theorem declaresGlobal_iff (line : List Char) : Pattern.declaresGlobal (trim line) ↔ DeclaresGlobal line :=
  holds_iff

theorem printsDebug_iff (small : Lowercasing lowercase) (line : List Char) :
    Pattern.printsDebug (trim line) ↔ PrintsDebug lowercase line := by
  rw [Pattern.printsDebug, Bool.and_eq_true, holds_iff, holds_iff, PrintsDebug,
    infix_lowercase_iff small (by decide) (by decide)]

theorem lt_deepest_iff (limit : Nat) (flow : Flow) :
    limit < (flow.nesting 0).deepest ↔ ∃ way, Flow.Way flow way ∧ limit < Flow.decisionsAmong way := by
  rw [Flow.nesting_eq, Nat.zero_add]
  constructor
  · intro deep
    obtain ⟨way, down, most⟩ := Flow.exists_way flow
    exact ⟨way, down, most ▸ deep⟩
  · rintro ⟨way, down, deep⟩
    exact Nat.lt_of_lt_of_le deep down.decisions_le

theorem finds_iff_shows (small : Lowercasing lowercase) (p : Pattern) :
    Finds limits flow lines p ↔ Shows lowercase limits flow lines p := by
  cases p with
  | deepNesting => exact lt_deepest_iff ..
  | complexConditionals =>
    rw [Finds, Shows, Flow.nesting_eq, Flow.decisionsAmong_nodes]
  | _ => simp only [Finds, Shows, Pattern.InLine, declaresGlobal_iff, printsDebug_iff small]

/-- Every line of a list stands in another list too, but for the blanks around it. -/
def Within (lines lines' : List (List Char)) : Prop :=
  ∀ line ∈ lines, ∃ line' ∈ lines', trim line = trim line'

theorem SameLines.within (same : SameLines lines lines') : Within lines lines' ∧ Within lines' lines := by
  constructor
  · intro line member
    obtain ⟨line', member', respaced⟩ := same.kept line member
    exact ⟨line', member', trim_eq_of_respaced respaced⟩
  · intro line' member'
    obtain ⟨line, member, respaced⟩ := same.known line' member'
    exact ⟨line, member, (trim_eq_of_respaced respaced).symm⟩

theorem within_of_map_trim (same : lines.map trim = lines'.map trim) : Within lines lines' := by
  intro line member
  obtain ⟨line', member', inner⟩ := List.mem_map.mp (same ▸ List.mem_map_of_mem (f := trim) member)
  exact ⟨line', member', inner.symm⟩

/-- A pattern of lines that is found in some lines is found wherever these stand. -/
theorem finds_of_within (within : Within lines lines') {p : Pattern} (ofLines : p.isOfNesting = false)
    (found : Finds limits flow lines p) : Finds limits flow' lines' p := by
  cases p with
  | deepNesting | complexConditionals => contradiction
  | _ =>
    obtain ⟨line, member, shown⟩ := found
    obtain ⟨line', member', same⟩ := within line member
    exact ⟨line', member', same ▸ shown⟩

theorem has_of_within (limits : Thresholds) (flow flow' : Flow) (within : Within lines lines')
    (back : Within lines' lines) {p : Pattern} (ofLines : p.isOfNesting = false) :
    (of limits flow lines).patterns.has p = (of limits flow' lines').patterns.has p := by
  rw [Bool.eq_iff_iff, has_of_iff, has_of_iff]
  exact ⟨finds_of_within within ofLines, finds_of_within back ofLines⟩

theorem has_of_nesting (limits : Thresholds) (flow : Flow) (lines lines' : List (List Char)) {p : Pattern}
    (ofNesting : p.isOfNesting) :
    (of limits flow lines).patterns.has p = (of limits flow lines').patterns.has p := by
  rw [Bool.eq_iff_iff, has_of_iff, has_of_iff]
  cases p with
  | deepNesting | complexConditionals => rfl
  | _ => contradiction

/-- Each pattern is in a report exactly if there is something to it, however letters beyond ASCII are made small. The
patterns of lines stay the same with any other flow, in any other order of the lines, with repetitions, other blanks
around the lines and other line ends in their text; those of nesting stay the same with any other lines. -/
theorem has_iff_shows (small : Lowercasing lowercase) (limits : Thresholds) (flow flow' : Flow)
    (lines lines' : List (List Char)) :
    (∀ p, (of limits flow lines).patterns.has p ↔ Shows lowercase limits flow lines p) ∧
    (SameLines lines lines' → ∀ p, p.isOfNesting = false →
      (of limits flow lines).patterns.has p = (of limits flow' lines').patterns.has p) ∧
    (∀ text text', Reended text text' → ∀ p, p.isOfNesting = false →
      (of limits flow (Text.lines text)).patterns.has p = (of limits flow' (Text.lines text')).patterns.has p) ∧
    ∀ p, p.isOfNesting → (of limits flow lines).patterns.has p = (of limits flow lines').patterns.has p := by
  refine ⟨fun p => ?_, fun same p ofLines => ?_, fun text text' reended p ofLines => ?_, fun p ofNesting => ?_⟩
  · rw [has_of_iff, finds_iff_shows small]
  · exact has_of_within limits flow flow' same.within.1 same.within.2 ofLines
  · have same := map_trim_lines reended
    exact has_of_within limits flow flow' (within_of_map_trim same) (within_of_map_trim same.symm) ofLines
  · exact has_of_nesting limits flow lines lines' ofNesting

/-- A line that prints and declares a global variable hides the former, which another line then supplies; a long line
without either comes second. The same lines with other blanks and line ends, turned around, say the same. -/
theorem has_iff_shows_of_three_lines :
    let small (c : Char) : List Char := if c = 'İ' then ['i', '\u0307'] else if c = 'É' then ['é'] else [c.toLower]
    let lowercase (text : List Char) : List Char := text.flatMap small
    let limits : Thresholds := { maxNestingDepth := 0, maxLineLength := 20 }
    let flow : Flow := .node .other [.node .loop []]
    let lines : List (List Char) :=
      ["global x; print(debug)".toList, "  return 'ÉÉÉÉÉÉÉÉÉÉÉÉ'".toList, "\tprint('DEBUGİ')".toList]
    let lines' : List (List Char) :=
      ["print('DEBUGİ')\r".toList, "return 'ÉÉÉÉÉÉÉÉÉÉÉÉ'\u2003".toList, "global x; print(debug)".toList]
    Lowercasing lowercase ∧ SameLines lines lines' ∧
      (∀ p, (of limits flow lines).patterns.has p ↔ Shows lowercase limits flow lines p) ∧
      (∀ p, p.isOfNesting = false →
        (of limits flow lines).patterns.has p = (of limits (.node .other []) lines').patterns.has p) ∧
      (of limits flow lines).patterns.toList = [.globalVariable, .debugPrint, .longLine, .deepNesting] := by
  intro small lowercase limits flow lines lines'
  have forms (c : Char) : SmallForm c (small c) := by
    by_cases dotted : c = 'İ'
    · subst dotted
      exact ⟨by decide, by simp [small]⟩
    by_cases accented : c = 'É'
    · subst accented
      exact ⟨by decide, by simp [small]⟩
    have plain : small c = [c.toLower] := by simp only [small, if_neg dotted, if_neg accented]
    exact plain ▸ smallForm_toLower c
  have lowercasing : Lowercasing lowercase := fun text =>
    ⟨text.map small, List.forall₂_map_right_iff.mpr (List.forall₂_same.mpr fun c _ => forms c), List.flatMap_def⟩
  have first : Respaced "global x; print(debug)".toList "global x; print(debug)".toList :=
    ⟨"global x; print(debug)".toList, [], [], [], [], by decide, by decide, by simp [isBlank]⟩
  have second : Respaced "  return 'ÉÉÉÉÉÉÉÉÉÉÉÉ'".toList "return 'ÉÉÉÉÉÉÉÉÉÉÉÉ'\u2003".toList :=
    ⟨"return 'ÉÉÉÉÉÉÉÉÉÉÉÉ'".toList, [' ', ' '], [], [], ['\u2003'], by decide, by decide, by simp [isBlank]⟩
  have third : Respaced "\tprint('DEBUGİ')".toList "print('DEBUGİ')\r".toList :=
    ⟨"print('DEBUGİ')".toList, ['\t'], [], [], ['\r'], by decide, by decide, by simp [isBlank]⟩
  have same : SameLines lines lines' := by
    constructor
    · simp only [lines, lines', List.forall_mem_cons, List.exists_mem_cons_iff]
      exact ⟨.inr (.inr (.inl first)), .inr (.inl second), .inl third, by simp⟩
    · simp only [lines, lines', List.forall_mem_cons, List.exists_mem_cons_iff]
      exact ⟨.inr (.inr (.inl third)), .inr (.inl second), .inl first, by simp⟩
  obtain ⟨shown, ofLines, -, -⟩ := has_iff_shows lowercasing limits flow (.node .other []) lines lines'
  exact ⟨lowercasing, same, shown, ofLines same, by decide⟩

end Report

end CodeAudit
