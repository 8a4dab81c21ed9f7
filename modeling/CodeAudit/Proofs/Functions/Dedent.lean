import CodeAudit.Proofs.Functions.Cutting
import CodeAudit.Proofs.Report.Findings

/-! Moving a text to the left. It takes back what indentation put in, the ways to the left add up, and no line gets
another pattern by it. Texts with carriage returns are not all the same before and after: one in front of a line end is
taken for a part of it each time the lines are read. -/
namespace CodeAudit

namespace Text

/-- A line with a margin of `n` bytes of spaces and tabs. An empty line has none. -/
def Indented (n : Nat) (line indented : List Char) : Prop :=
  if line = [] then indented = []
  else ∃ margin, byteCount margin = n ∧ (∀ c ∈ margin, isIndent c) ∧ indented = margin ++ line

section Outdented

variable {line : List Char}

theorem outdent_append {margin : List Char} (indents : ∀ c ∈ margin, isIndent c) (line : List Char) :
    outdent margin.length (margin ++ line) = line := by
  induction margin with
  | nil => simp [outdent]
  | cons c margin ih =>
    obtain ⟨first, others⟩ := List.forall_mem_cons.mp indents
    simp [outdent, first, ih others]

theorem outdent_of_indented {n : Nat} {indented : List Char} (holds : Indented n line indented) :
    outdent n indented = line := by
  unfold Indented at holds
  split at holds
  · next empty => rw [holds, empty]; cases n <;> rfl
  · obtain ⟨margin, rfl, indents, rfl⟩ := holds
    rw [byteCount_of_isIndent indents]
    exact outdent_append indents line

theorem mem_of_mem_indented {n : Nat} {indented : List Char} (holds : Indented n line indented) {c : Char}
    (member : c ∈ indented) : isIndent c ∨ c ∈ line := by
  unfold Indented at holds
  split at holds
  · rw [holds] at member
    cases member
  · obtain ⟨margin, -, indents, rfl⟩ := holds
    exact (List.mem_append.mp member).imp (indents c) id

theorem outdent_outdent (i j : Nat) (line : List Char) : outdent j (outdent i line) = outdent (i + j) line := by
  induction i generalizing line with
  | zero => simp [outdent]
  | succ i ih =>
    rw [Nat.succ_add]
    cases line with
    | nil => cases j <;> rfl
    | cons c rest =>
      by_cases indent : isIndent c
      · simp only [outdent, indent, if_true, ih]
      · cases j <;> simp [outdent, indent]

theorem trim_outdent (n : Nat) (line : List Char) : trim (outdent n line) = trim line := by
  obtain ⟨blanks, split, -, indents, -⟩ := outdent_split n line
  have blank : ∀ c ∈ blanks, isBlank c := by
    intro c member
    obtain rfl | rfl : c = ' ' ∨ c = '\t' := by simpa [isIndent] using indents c member
    · rfl
    · rfl
  have none : ∀ c ∈ ([] : List Char), isBlank c := by simp
  have same := trim_blanks blank none (outdent n line)
  rw [List.append_nil, ← split] at same
  exact same.symm

end Outdented

section Lines

variable {text : List Char} {ls : List (List Char)}

theorem return_notMem_lines (none : '\r' ∉ text) : ∀ line ∈ lines text, '\r' ∉ line := by
  fun_induction lines text with
  | case1 => simp
  | case2 rest ih => exact List.forall_mem_cons.mpr ⟨List.not_mem_nil, ih (List.not_mem_of_not_mem_cons none)⟩
  | case3 rest ih => simp at none
  | case4 c rest => simpa using List.ne_of_not_mem_cons none
  | case5 c rest _ _ line more found ih =>
    rw [found] at ih
    obtain ⟨first, others⟩ := List.forall_mem_cons.mp (ih (List.not_mem_of_not_mem_cons none))
    refine List.forall_mem_cons.mpr ⟨?_, others⟩
    rw [List.mem_cons, not_or]
    exact ⟨List.ne_of_not_mem_cons none, first⟩

/-- Lines without carriage returns are read as they were written. -/
theorem lines_unlines_of_notMem (feed : ∀ l ∈ ls, '\n' ∉ l) (return' : ∀ l ∈ ls, '\r' ∉ l) :
    lines (unlines ls) = ls := by
  have each : ∀ l ∈ ls, lines (l ++ ['\n']) = [l] := fun l member =>
    lines_concat (feed l member) fun last => return' l member (List.mem_of_getLast? last)
  rw [lines_unlines, List.flatMap_def, List.map_congr_left each, ← List.flatMap_def]
  exact List.flatMap_singleton' ls

/-- A text that has ended is what its lines make. -/
theorem unlines_lines (ended : Ended text) (none : '\r' ∉ text) : unlines (lines text) = text := by
  fun_induction lines text with
  | case1 => rfl
  | case2 rest ih =>
    exact congrArg ('\n' :: ·) (ih (ended_cons.mp ended).2 (List.not_mem_of_not_mem_cons none))
  | case3 rest ih => simp at none
  | case4 c rest feed _ empty ih => exact absurd ((ended_cons.mp ended).1 (lines_eq_nil.mp empty)) feed
  | case5 c rest _ _ line more found ih =>
    have whole := ih (ended_cons.mp ended).2 (List.not_mem_of_not_mem_cons none)
    rw [found] at whole
    exact congrArg (c :: ·) whole

theorem rows_single {line : List Char} (one : '\n' ∉ line) (rest : List Char) :
    rows (line ++ '\n' :: rest) = line :: rows rest := by
  induction line with
  | nil => exact rows_feed rest
  | cons c line ih =>
    rw [List.mem_cons, not_or] at one
    rw [List.cons_append, rows_cons (Ne.symm one.1), ih one.2, begun]

theorem rows_unlines (feed : ∀ l ∈ ls, '\n' ∉ l) : rows (unlines ls) = ls := by
  induction ls with
  | nil => rfl
  | cons l ls ih =>
    obtain ⟨first, others⟩ := List.forall_mem_cons.mp feed
    have split : unlines (l :: ls) = l ++ '\n' :: unlines ls := by simp [unlines]
    rw [split, rows_single first, ih others]

theorem map_outdent_of_indented {n : Nat} {indented : List (List Char)} (each : List.Forall₂ (Indented n) ls indented) :
    indented.map (outdent n) = ls := by
  induction each with
  | nil => rfl
  | cons first _ ih => rw [List.map_cons, outdent_of_indented first, ih]

theorem notMem_of_indented {n : Nat} {indented : List (List Char)} (each : List.Forall₂ (Indented n) ls indented)
    {c : Char} (other : isIndent c = false) (none : ∀ l ∈ ls, c ∉ l) : ∀ l ∈ indented, c ∉ l := by
  induction each with
  | nil => simp
  | cons first _ ih =>
    obtain ⟨here, others⟩ := List.forall_mem_cons.mp none
    refine List.forall_mem_cons.mpr ⟨fun member => ?_, ih others⟩
    rcases mem_of_mem_indented first member with indent | old
    · exact absurd indent (by simp [other])
    · exact here old

theorem lineFeed_notMem_outdent (n : Nat) (text : List Char) : ∀ l ∈ (lines text).map (outdent n), '\n' ∉ l := by
  rw [List.forall_mem_map]
  exact fun line member feed => lineFeed_notMem_lines text line member (mem_of_mem_outdent feed)

/-- Without carriage returns the lines of a text that was moved are read one by one. -/
theorem lines_dedent (n : Nat) (none : '\r' ∉ text) : lines (dedent n text) = (lines text).map (outdent n) := by
  refine lines_unlines_of_notMem (lineFeed_notMem_outdent n text) ?_
  rw [List.forall_mem_map]
  exact fun line member return' => return_notMem_lines none line member (mem_of_mem_outdent return')

/-- The lines of a text that was moved are its lines but for blanks around them. -/
theorem map_trim_dedent (n : Nat) (text : List Char) : (lines (dedent n text)).map trim = (lines text).map trim := by
  rw [map_trim_of_returned (returned_lines (dedent n text)), dedent, rows_unlines (lineFeed_notMem_outdent n text),
    List.map_map]
  exact List.map_congr_left fun line _ => trim_outdent n line

end Lines

end Text

open Text

/-- Lines that are the same but for blanks around them, each in its place, show the same patterns. -/
theorem ofLine?_of_map_trim {ls ms : List (List Char)} (same : ls.map trim = ms.map trim) :
    List.Forall₂ (fun l m => ∀ longest, Pattern.ofLine? longest l = Pattern.ofLine? longest m) ls ms := by
  have each : List.Forall₂ (fun l m => trim l = trim m) ls ms := by
    rwa [← List.forall₂_eq_eq_eq, List.forall₂_map_left_iff, List.forall₂_map_right_iff] at same
  refine each.imp fun l m inner longest => ?_
  rw [Pattern.ofLine?, inner, Pattern.ofLine?]

theorem filterMap_ofLine? {ls ms : List (List Char)} {longest : Nat}
    (each : List.Forall₂ (fun l m => ∀ longest, Pattern.ofLine? longest l = Pattern.ofLine? longest m) ls ms) :
    ls.filterMap (Pattern.ofLine? longest) = ms.filterMap (Pattern.ofLine? longest) := by
  induction each with
  | nil => rfl
  | cons first _ ih => rw [List.filterMap_cons, List.filterMap_cons, first longest, ih]

/-- A margin of `n` bytes that the lines of a text get is taken off again, in whatever mix of spaces and tabs each line
has it. Moving a text twice moves it by the sum. However a text is made up, moving it keeps the number of its lines and
what is found in each of them, and so all findings in its lines. -/
theorem dedent_indented :
    (∀ (n : Nat) (text : List Char) (indented : List (List Char)), Ended text → '\r' ∉ text →
      List.Forall₂ (Indented n) (lines text) indented → dedent n (unlines indented) = text) ∧
    (∀ (i j : Nat) (text : List Char), '\r' ∉ text → dedent j (dedent i text) = dedent (i + j) text) ∧
    ∀ (n : Nat) (text : List Char),
      List.Forall₂ (fun moved line => ∀ longest, Pattern.ofLine? longest moved = Pattern.ofLine? longest line)
        (lines (dedent n text)) (lines text) ∧
      ∀ limits flow, Report.of limits flow (lines (dedent n text)) = Report.of limits flow (lines text) := by
  refine ⟨fun n text indented ended none each => ?_, fun i j text none => ?_, fun n text => ?_⟩
  · have read : lines (unlines indented) = indented :=
      lines_unlines_of_notMem (notMem_of_indented each rfl (lineFeed_notMem_lines text))
        (notMem_of_indented each rfl (return_notMem_lines none))
    rw [dedent, read, map_outdent_of_indented each, unlines_lines ended none]
  · have twice : outdent j ∘ outdent i = outdent (i + j) := funext (outdent_outdent i j)
    rw [dedent, lines_dedent i none, List.map_map, twice, dedent]
  · have each := ofLine?_of_map_trim (map_trim_dedent n text)
    refine ⟨each, fun limits flow => ?_⟩
    rw [Report.of, filterMap_ofLine? each, Report.of]

/-- Two lines with different margins of two bytes around an empty one; and a text with carriage returns, a blank of
several bytes and no line end at its end. -/
theorem dedent_indented_by_two :
    let text := "if é:\n\n  x\n".toList
    let indented := ["\t if é:".toList, [], " \t  x".toList]
    let mixed := " \tprint('debug')\r\r\n\r\n  \u2003global x\r".toList
    Ended text ∧ '\r' ∉ text ∧ List.Forall₂ (Indented 2) (lines text) indented ∧
      dedent 2 (unlines indented) = text ∧ dedent 1 (dedent 1 text) = dedent 2 text ∧
      Report.of {} (.node .other []) (lines (dedent 2 mixed)) = Report.of {} (.node .other []) (lines mixed) ∧
      (Report.of {} (.node .other []) (lines mixed)).patterns.toList = [.globalVariable, .debugPrint] := by
  intro text indented mixed
  have ended : Ended text := by simp [Ended, text]
  have none : '\r' ∉ text := by decide
  have first : Indented 2 "if é:".toList "\t if é:".toList := by
    rw [Indented, if_neg (by decide)]
    exact ⟨['\t', ' '], by decide, by simp [isIndent], by decide⟩
  have last : Indented 2 "  x".toList " \t  x".toList := by
    rw [Indented, if_neg (by decide)]
    exact ⟨[' ', '\t'], by decide, by simp [isIndent], by decide⟩
  have each : List.Forall₂ (Indented 2) (lines text) indented := by
    have read : lines text = ["if é:".toList, [], "  x".toList] := by decide
    exact read ▸ .cons first (.cons rfl (.cons last .nil))
  obtain ⟨undone, summed, kept⟩ := dedent_indented
  exact ⟨ended, none, each, undone 2 text indented ended none each, summed 1 1 text none, (kept 2 mixed).2 {} _,
    by decide⟩

end CodeAudit
