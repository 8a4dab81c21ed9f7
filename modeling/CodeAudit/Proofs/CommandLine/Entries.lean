import CodeAudit.Proofs.CommandLine.Analysis
import CodeAudit.Proofs.Json.Pretty
import CodeAudit.Proofs.Report.Words

/-! What is told about functions, taken from nothing but the text that is shown. -/
namespace CodeAudit

namespace CommandLine

open FunctionSource

/-- What is told about a function, with its patterns in one form or another. -/
structure FunctionEntry (π : Type) where
  name : String
  line : Nat
  complexity : Nat
  nesting : Nat
  conditionals : Nat
  patterns : π
deriving DecidableEq

namespace FunctionEntry

def natural? (t : List Char) : Option Nat :=
  if t.isEmpty || !t.all Char.isDigit then none else some (Nat.ofDigitChars 10 t 0)

/-- The entry that the lines of a summary make, with its patterns in a word. -/
def ofSummary? (title complexity nesting conditionals patterns : List Char) : Option (FunctionEntry (List Char)) := do
  let (name, place) := title.span (· ≠ ' ')
  let line ← [')'].isSuffixOf? (← " (line ".toList.isPrefixOf? place)
  return {
    name := .ofList name
    line := ← natural? line
    complexity := ← natural? (← "  complexity:        ".toList.isPrefixOf? complexity)
    nesting := ← natural? (← "  max nesting depth: ".toList.isPrefixOf? nesting)
    conditionals := ← natural? (← "  conditional depth: ".toList.isPrefixOf? conditionals)
    patterns := ← "  patterns:          ".toList.isPrefixOf? patterns }

/-- The entries of summaries that stand one behind the other. -/
def ofSummaries? : List (List Char) → Option (List (FunctionEntry (List Char)))
  | [] => some []
  | title :: complexity :: nesting :: conditionals :: patterns :: rest => do
    let entry ← ofSummary? title complexity nesting conditionals patterns
    let entries ← ofSummaries? rest
    return entry :: entries
  | _ => none

/-- The entries of an output without colors. Where there are none, a line says so. -/
def ofText? (text : List Char) : Option (List (FunctionEntry (List Char))) :=
  match Text.lines text with
  | [notice] => if notice = "No functions found.".toList then some [] else none
  | lines => ofSummaries? lines

/-- The entry in an object, with its patterns as a set. -/
def ofObject? (v : Json) : Option (FunctionEntry PatternSet) := do
  let report ← v.member? "anti_patterns"
  let names ← (← (← report.member? "detected_patterns").array?).mapM Json.string?
  return {
    name := ← (← v.member? "name").string?
    line := ← (← v.member? "line").number?
    complexity := ← (← v.member? "complexity").number?
    nesting := ← (← report.member? "max_nesting_depth").number?
    conditionals := ← (← report.member? "conditional_depth").number?
    patterns := .ofList (← names.mapM Pattern.ofName?) }

/-- The entries of an output in JSON. -/
def ofJson? (text : List Char) : Option (List (FunctionEntry PatternSet)) := do
  (← (← Json.ofText? text).array?).mapM ofObject?

/-- Two entries say the same about the same function, and `none` stands exactly where no pattern is told. -/
structure Agrees (shown : FunctionEntry (List Char)) (told : FunctionEntry PatternSet) : Prop where
  name : shown.name = told.name
  line : shown.line = told.line
  complexity : shown.complexity = told.complexity
  nesting : shown.nesting = told.nesting
  conditionals : shown.conditionals = told.conditionals
  patterns : PatternSet.ofWord? shown.patterns = some told.patterns
  none_iff : shown.patterns = "none".toList ↔ told.patterns = .empty

/-- What is known about a function, with its patterns in some form. -/
def of {π : Type} (x : Analyzed) (patterns : π) : FunctionEntry π where
  name := x.1.qualifiedName
  line := x.1.line
  complexity := x.2.complexity
  nesting := x.2.report.maxNestingDepth
  conditionals := x.2.report.conditionalDepth
  patterns := patterns

theorem agrees (x : Analyzed) : Agrees (of x (x.2.patternsText false)) (of x x.2.report.patterns) where
  name := rfl
  line := rfl
  complexity := rfl
  nesting := rfl
  conditionals := rfl
  patterns := (Analysis.patternsText_spec x.2).1
  none_iff := (Analysis.patternsText_spec x.2).2.1

/-! ### Summaries -/

theorem natural?_digits (n : Nat) : natural? (Nat.toDigits 10 n) = some n := by
  have solid : (Nat.toDigits 10 n).isEmpty = false := by simp [Nat.toDigits_ne_nil]
  have digits : (Nat.toDigits 10 n).all Char.isDigit = true :=
    List.all_eq_true.mpr fun c => Nat.isDigit_of_mem_toDigits (by decide) (by decide)
  rw [natural?, solid, digits, Nat.ofDigitChars_ten_toDigits]
  rfl

/-- A text without blanks and control characters. -/
def Legible (t : List Char) : Prop :=
  ∀ c ∈ t, 32 < c.toNat

/-- The lines of a summary. -/
def summaryLines (x : Analyzed) : List (List Char) := [
  x.1.qualifiedName.toList ++ (" (line ".toList ++ (Nat.toDigits 10 x.1.line ++ [')'])),
  "  complexity:        ".toList ++ Nat.toDigits 10 x.2.complexity,
  "  max nesting depth: ".toList ++ Nat.toDigits 10 x.2.report.maxNestingDepth,
  "  conditional depth: ".toList ++ Nat.toDigits 10 x.2.report.conditionalDepth,
  "  patterns:          ".toList ++ x.2.patternsText false]

/-- The summaries of functions, one behind the other. -/
def summaries (colors : Bool) (xs : List Analyzed) : List Char :=
  xs.flatMap fun x => x.2.summary colors x.1.qualifiedName x.1.line

theorem summaries_eq_unlines (xs : List Analyzed) : summaries false xs = Text.unlines (xs.flatMap summaryLines) := by
  rw [summaries, Text.unlines, List.flatMap_assoc]
  refine congrArg (List.flatMap · xs) (funext fun x => ?_)
  simp [Analysis.summary, Text.unlines, summaryLines, Style.paint]

section Legible

open Json (Printable printable_digits)

variable {x : Analyzed} {xs : List Analyzed}

theorem printable_summaryLines (legible : Legible x.1.qualifiedName.toList) : ∀ l ∈ summaryLines x, Printable l := by
  have name : Printable x.1.qualifiedName.toList := fun c member => Nat.le_of_lt (legible c member)
  have word := (Analysis.patternsText_spec x.2).2.2
  simp only [summaryLines, List.forall_mem_cons]
  refine ⟨name.append (.append (by decide) (.append (printable_digits _) (by decide))), ?_, ?_, ?_, ?_, by simp⟩
  · exact .append (by decide) (printable_digits _)
  · exact .append (by decide) (printable_digits _)
  · exact .append (by decide) (printable_digits _)
  · exact .append (by decide) word

theorem lines_summaries (legible : ∀ x ∈ xs, Legible x.1.qualifiedName.toList) :
    Text.lines (summaries false xs) = xs.flatMap summaryLines := by
  have one {l : List Char} (printable : Printable l) : Text.lines (l ++ ['\n']) = [l] := by
    refine Text.lines_concat printable.not_mem_lineFeed fun last => ?_
    exact absurd (printable _ (List.mem_of_getLast? last)) (by decide)
  rw [summaries_eq_unlines, Text.lines_unlines]
  refine (List.flatMap_congr fun l member => ?_).trans (List.flatMap_singleton' _)
  obtain ⟨x, known, line⟩ := List.mem_flatMap.mp member
  exact one (printable_summaryLines (legible x known) l line)

/-- The name is what stands in front of the first blank. -/
theorem ofSummary?_lines (legible : Legible x.1.qualifiedName.toList) :
    ofSummary? (x.1.qualifiedName.toList ++ (" (line ".toList ++ (Nat.toDigits 10 x.1.line ++ [')'])))
      ("  complexity:        ".toList ++ Nat.toDigits 10 x.2.complexity)
      ("  max nesting depth: ".toList ++ Nat.toDigits 10 x.2.report.maxNestingDepth)
      ("  conditional depth: ".toList ++ Nat.toDigits 10 x.2.report.conditionalDepth)
      ("  patterns:          ".toList ++ x.2.patternsText false) = some (of x (x.2.patternsText false)) := by
  let place := " (line ".toList ++ (Nat.toDigits 10 x.1.line ++ [')'])
  have letters : ∀ c ∈ x.1.qualifiedName.toList, decide (c ≠ ' ') = true := by
    intro c member
    refine decide_eq_true fun blank => ?_
    have solid := legible c member
    rw [blank] at solid
    exact absurd solid (by decide)
  have title : (x.1.qualifiedName.toList ++ place).span (· ≠ ' ') = (x.1.qualifiedName.toList, place) := by
    rw [List.span_eq_takeWhile_dropWhile, List.takeWhile_append_of_pos letters, List.dropWhile_append_of_pos letters]
    simp [place]
  have behind (label t : List Char) : label.isPrefixOf? (label ++ t) = some t :=
    List.isPrefixOf?_eq_some_iff_append_eq.mpr rfl
  have closed : [')'].isSuffixOf? (Nat.toDigits 10 x.1.line ++ [')']) = some (Nat.toDigits 10 x.1.line) :=
    List.isSuffixOf?_eq_some_iff_append_eq.mpr rfl
  unfold ofSummary?
  rw [title]
  dsimp only [place]
  simp only [behind, closed, natural?_digits, String.ofList_toList, bind, Option.bind]
  rfl

theorem ofSummaries?_lines (legible : ∀ x ∈ xs, Legible x.1.qualifiedName.toList) :
    ofSummaries? (xs.flatMap summaryLines) = some (xs.map fun x => of x (x.2.patternsText false)) := by
  induction xs with
  | nil => rfl
  | cons x xs ih =>
    obtain ⟨first, others⟩ := List.forall_mem_cons.mp legible
    rw [List.flatMap_cons, summaryLines, List.cons_append, List.cons_append, List.cons_append, List.cons_append,
      List.cons_append, List.nil_append, ofSummaries?, ofSummary?_lines first, ih others]
    rfl

/-- Summaries say what is known about the functions. -/
theorem ofText?_summaries (legible : ∀ x ∈ xs, Legible x.1.qualifiedName.toList) :
    ofText? (summaries false xs) = some (xs.map fun x => of x (x.2.patternsText false)) := by
  rw [ofText?, lines_summaries legible]
  split
  · next alone =>
    cases xs with
    | nil => cases alone
    | cons x xs => cases alone
  · exact ofSummaries?_lines legible

end Legible

/-- What is shown as text says what is known about the functions. -/
theorem ofText?_output {xs : List Analyzed} (legible : ∀ x ∈ xs, Legible x.1.qualifiedName.toList) :
    ofText? (output false .text xs) = some (xs.map fun x => of x (x.2.patternsText false)) := by
  cases xs with
  | nil => decide +kernel
  | cons x xs => exact ofText?_summaries legible

/-! ### Objects -/

theorem ofObject?_toJson (x : Analyzed) : ofObject? (toJson x) = some (of x x.2.report.patterns) := by
  let patterns := x.2.report.patterns
  have report : (toJson x).member? "anti_patterns" = some (Json.reportCodec.encode x.2.report) := rfl
  have names : (Json.reportCodec.encode x.2.report).member? "detected_patterns" =
      some (.array (patterns.toList.map fun p => .string p.name)) := rfl
  have strings : (patterns.toList.map fun p => Json.string p.name).mapM Json.string? =
      some (patterns.toList.map Pattern.name) := by
    rw [List.mapM_map]
    exact List.mapM_pure
  unfold ofObject?
  simp only [report, names, strings, Pattern.mapM_ofName?, PatternSet.ofList_toList, bind, Option.bind, Json.array?,
    patterns]
  rfl

theorem ofText?_json (colors : Bool) (xs : List Analyzed) :
    Json.ofText? (output colors .json xs) = some (.array (xs.map toJson)) :=
  Json.ofText?_pretty _

/-- What is shown as JSON says what is known about the functions. -/
theorem ofJson?_output (colors : Bool) (xs : List Analyzed) :
    ofJson? (output colors .json xs) = some (xs.map fun x => of x x.2.report.patterns) := by
  have each : ofObject? ∘ toJson = fun x => some (of x x.2.report.patterns) := funext ofObject?_toJson
  have objects : (xs.map toJson).mapM ofObject? = some (xs.map fun x => of x x.2.report.patterns) := by
    rw [List.mapM_map, each]
    exact List.mapM_pure
  simp only [ofJson?, ofText?_json, bind, Option.bind, Json.array?, objects]

end FunctionEntry

end CommandLine

end CodeAudit
