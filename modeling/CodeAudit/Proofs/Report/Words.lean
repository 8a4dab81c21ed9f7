import CodeAudit.Presentation
import CodeAudit.Proofs.Json.Written
import CodeAudit.Proofs.Text.Lines

/-! The one word in which a summary tells the patterns of a function. -/
namespace CodeAudit

namespace Pattern

/-- A name has nothing in it that keeps names apart, and it is known. -/
theorem name_spec (p : Pattern) : Json.Printable p.name.toList ∧ ',' ∉ p.name.toList ∧
    (p.name.toList.dropWhile fun c => c = ' ') = p.name.toList ∧ ofName? p.name = some p := by
  cases p <;> decide

theorem mapM_ofName? (ps : List Pattern) : (ps.map name).mapM ofName? = some ps := by
  have each : ofName? ∘ name = fun p => some p := funext fun p => (name_spec p).2.2.2
  rw [List.mapM_map, each]
  simpa using (List.mapM_pure : ps.mapM (fun p => some p) = some (ps.map fun p => p))

end Pattern

namespace PatternSet

open Pattern (name_spec mapM_ofName?)

/-- The set that a word in a summary stands for: `none`, or names in braces, of which there is at least one. -/
def ofWord? (word : List Char) : Option PatternSet :=
  if word = "none".toList then some .empty
  else do
    let inner ← ['\x7d'].isSuffixOf? (← ['\x7b'].isPrefixOf? word)
    let names := (inner.splitOn ',').map fun name => String.ofList (name.dropWhile (· = ' '))
    return .ofList (← names.mapM Pattern.ofName?)

/-- A blank behind a comma can be counted to what follows it. -/
theorem intercalate_blank (n : List Char) (ns : List (List Char)) :
    [',', ' '].intercalate (n :: ns) = [','].intercalate (n :: ns.map (' ' :: ·)) := by
  induction ns generalizing n with
  | nil => rfl
  | cons m ns ih =>
    have blank : [','].intercalate ((' ' :: m) :: ns.map (' ' :: ·)) =
        ' ' :: [','].intercalate (m :: ns.map (' ' :: ·)) := by
      cases ns <;> simp
    rw [List.intercalate_cons_cons, ih, List.map_cons, List.intercalate_cons_cons, blank]
    simp

/-- Names in braces are read back. -/
theorem ofWord?_names {ps : List Pattern} (found : ps ≠ []) :
    ofWord? ('\x7b' :: ([',', ' '].intercalate (ps.map (·.name.toList)) ++ ['\x7d'])) = some (.ofList ps) := by
  obtain ⟨p, rest, rfl⟩ := List.exists_cons_of_ne_nil found
  let pieces := p.name.toList :: rest.map (' ' :: ·.name.toList)
  have split : ([',', ' '].intercalate ((p :: rest).map (·.name.toList))).splitOn ',' = pieces := by
    have apart : ∀ l ∈ pieces, ',' ∉ l := by simp [pieces, name_spec]
    rw [List.map_cons, intercalate_blank, List.map_map]
    exact List.splitOn_intercalate ',' apart (List.cons_ne_nil _ _)
  have bare : (pieces.map fun name => String.ofList (name.dropWhile (· = ' '))) = (p :: rest).map Pattern.name := by
    simp [pieces, name_spec, Function.comp_def]
  have opened (t : List Char) : ['\x7b'].isPrefixOf? ('\x7b' :: t) = some t :=
    List.isPrefixOf?_eq_some_iff_append_eq.mpr rfl
  have closed (t : List Char) : ['\x7d'].isSuffixOf? (t ++ ['\x7d']) = some t :=
    List.isSuffixOf?_eq_some_iff_append_eq.mpr rfl
  rw [ofWord?, if_neg (by simp)]
  simp only [opened, closed, split, bare, mapM_ofName?, bind, Option.bind]
  rfl

end PatternSet

open Pattern (name_spec)

namespace Report

theorem toList_patternSet (r : Report) : r.patternSet.toList =
    '\x7b' :: ([',', ' '].intercalate (r.patterns.toList.map (·.name.toList)) ++ ['\x7d']) := by
  simp [patternSet, Function.comp_def]

theorem printable_patternSet (r : Report) : Json.Printable r.patternSet.toList := by
  have apart : Json.Printable [',', ' '] := by decide
  have each : ∀ n ∈ r.patterns.toList.map (·.name.toList), Json.Printable n :=
    List.forall_mem_map.mpr fun p _ => (name_spec p).1
  have inner : Json.Printable ([',', ' '].intercalate (r.patterns.toList.map (·.name.toList))) :=
    Text.forall_mem_intercalate apart each
  rw [toList_patternSet]
  exact .cons (by decide) (inner.append (by decide))

end Report

/-- The word for patterns is read back, it is `none` exactly for the empty set, and it fits on a line. -/
theorem Analysis.patternsText_spec (a : Analysis) :
    PatternSet.ofWord? (a.patternsText false) = some a.report.patterns ∧
      (a.patternsText false = "none".toList ↔ a.report.patterns = .empty) ∧ Json.Printable (a.patternsText false) := by
  by_cases found : a.report.patterns.toList = []
  · have clean : a.report.isClean = true := List.isEmpty_iff.mpr found
    have text : a.patternsText false = "none".toList := if_pos clean
    have empty : a.report.patterns = .empty := PatternSet.toList_injective found
    rw [text, empty]
    exact ⟨rfl, by simp, by decide⟩
  · have clean : a.report.isClean = false := List.isEmpty_eq_false_iff.mpr found
    have text : a.patternsText false = a.report.patternSet.toList := by
      simp [Analysis.patternsText, clean, Style.paint]
    have other : a.report.patterns ≠ .empty := fun empty => found (by rw [empty]; rfl)
    have printable := a.report.printable_patternSet
    rw [Report.toList_patternSet] at text printable
    rw [text, PatternSet.ofWord?_names found, PatternSet.ofList_toList]
    exact ⟨rfl, iff_of_false (by simp) other, printable⟩

end CodeAudit
