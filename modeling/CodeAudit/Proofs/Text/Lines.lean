import CodeAudit.Text.Line
import Mathlib

/-! The lines of texts of which each stands behind a line end of the other. -/
namespace CodeAudit.Text

/-- Nothing comes behind the last line end of a text. -/
def Ended (t : List Char) : Prop :=
  ∀ c ∈ t.getLast?, c = '\n'

theorem ended_concat (t : List Char) : Ended (t ++ ['\n']) := by
  simp [Ended]

theorem ended_cons {c : Char} {t : List Char} : Ended (c :: t) ↔ (t = [] → c = '\n') ∧ Ended t := by
  cases t with
  | nil => simp [Ended]
  | cons d t => simp [Ended, List.getLast?_cons_cons]

@[simp] theorem lines_eq_nil {t : List Char} : lines t = [] ↔ t = [] := by
  constructor
  · intro none
    fun_cases lines t <;> simp_all [lines]
  · rintro rfl
    rfl

/-- A character that ends no line is in the first line. -/
theorem lines_cons {c : Char} {rest : List Char} (feed : c ≠ '\n') (pair : c = '\r' → rest.head? ≠ some '\n')
    {line : List Char} {more : List (List Char)} (found : lines rest = line :: more) :
    lines (c :: rest) = (c :: line) :: more := by
  rw [lines, found]
  · exact feed
  · rintro rest' rfl rfl
    exact pair rfl rfl

/-- Behind a line end the lines of a text are those of the text that stands there. -/
theorem lines_append {a : List Char} (ended : Ended a) (b : List Char) : lines (a ++ b) = lines a ++ lines b := by
  fun_induction lines a with
  | case1 => rfl
  | case2 rest ih => simp only [List.cons_append, lines, ih (ended_cons.mp ended).2]
  | case3 rest ih => simp only [List.cons_append, lines, ih (ended_cons.mp (ended_cons.mp ended).2).2]
  | case4 c rest feed return' none ih =>
    exact absurd ((ended_cons.mp ended).1 (lines_eq_nil.mp none)) feed
  | case5 c rest feed return' line more found ih =>
    obtain ⟨d, rest, rfl⟩ := List.exists_cons_of_ne_nil (fun none : rest = [] => by simp [none, lines] at found)
    have whole := ih (ended_cons.mp ended).2
    rw [found] at whole
    refine lines_cons feed (fun cr => ?_) whole
    intro first
    obtain rfl := Option.some.inj first
    exact return' rest cr rfl

theorem length_lines {t : List Char} (ended : Ended t) : (lines t).length = t.count '\n' := by
  fun_induction lines t with
  | case1 => rfl
  | case2 rest ih => simp [ih (ended_cons.mp ended).2]
  | case3 rest ih => simp [ih (ended_cons.mp (ended_cons.mp ended).2).2]
  | case4 c rest feed return' none ih =>
    exact absurd ((ended_cons.mp ended).1 (lines_eq_nil.mp none)) feed
  | case5 c rest feed return' line more found ih =>
    have counted := ih (ended_cons.mp ended).2
    rw [List.count_cons_of_ne feed, ← counted, found, List.length_cons, List.length_cons]

/-- A line that has no line end in it is the one line of itself. -/
theorem lines_concat {l : List Char} (one : '\n' ∉ l) (last : l.getLast? ≠ some '\r') : lines (l ++ ['\n']) = [l] := by
  induction l with
  | nil => rfl
  | cons c l ih =>
    rw [List.mem_cons, not_or] at one
    cases l with
    | nil => exact lines_cons (Ne.symm one.1) (fun cr => absurd (by rw [cr]; rfl) last) rfl
    | cons d l =>
      refine lines_cons (Ne.symm one.1) (fun _ => ?_) (ih one.2 last)
      intro first
      exact one.2 (by rw [← Option.some.inj first]; exact List.mem_cons_self)

/-- The lines of a list of texts, each with a line feed behind it. -/
theorem lines_unlines (ts : List (List Char)) : lines (unlines ts) = ts.flatMap fun t => lines (t ++ ['\n']) := by
  induction ts with
  | nil => rfl
  | cons t ts ih =>
    rw [unlines, List.flatMap_cons, lines_append (ended_concat t), List.flatMap_cons]
    exact congrArg _ ih

theorem forall_mem_intercalate {P : Char → Prop} {s : List Char} {ls : List (List Char)} (apart : ∀ c ∈ s, P c)
    (each : ∀ l ∈ ls, ∀ c ∈ l, P c) : ∀ c ∈ s.intercalate ls, P c := by
  induction ls with
  | nil => simp
  | cons l ls ih =>
    obtain ⟨first, others⟩ := List.forall_mem_cons.mp each
    cases ls with
    | nil => simpa using first
    | cons m ls =>
      rw [List.intercalate_cons_cons, List.forall_mem_append, List.forall_mem_append]
      exact ⟨⟨first, apart⟩, ih others⟩

end CodeAudit.Text
