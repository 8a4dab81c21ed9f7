import CodeAudit.Json.Value
import Mathlib

/-! The characters of JSON texts without blanks. -/
namespace CodeAudit.Json

/-- There are no control characters in a text. -/
def Printable (t : List Char) : Prop :=
  ∀ c ∈ t, 32 ≤ c.toNat

instance (t : List Char) : Decidable (Printable t) :=
  decidable_of_iff (t.all (32 ≤ ·.toNat)) (by simp [Printable])

theorem Printable.append {s t : List Char} (first : Printable s) (second : Printable t) : Printable (s ++ t) :=
  List.forall_mem_append.mpr ⟨first, second⟩

theorem Printable.cons {c : Char} {t : List Char} (head : 32 ≤ c.toNat) (tail : Printable t) : Printable (c :: t) :=
  List.forall_mem_cons.mpr ⟨head, tail⟩

theorem Printable.not_mem_lineFeed {t : List Char} (printable : Printable t) : '\n' ∉ t :=
  fun member => absurd (printable _ member) (by decide)

/-- What holds of the control characters one by one. -/
theorem forall_control {p : Char → Prop} (each : ∀ n < 32, p (.ofNat n)) {c : Char} (control : c.toNat < 32) : p c := by
  rw [← Char.ofNat_toNat c]
  exact each c.toNat control

/-- Of the characters that are no control characters two are escaped. -/
theorem escape_of_le {c : Char} (plain : 32 ≤ c.toNat) :
    escape c = if c = '"' ∨ c = '\\' then ['\\', c] else [c] := by
  unfold escape
  split
  all_goals first | rfl | exact absurd plain (by decide) | skip
  next quote backslash _ _ _ _ _ => rw [if_neg (Nat.not_lt.mpr plain), if_neg (not_or.mpr ⟨quote, backslash⟩)]

theorem printable_escape (c : Char) : Printable (escape c) := by
  rcases Nat.lt_or_ge c.toNat 32 with control | plain
  · revert control
    exact forall_control (p := fun c => Printable (escape c)) (by decide +kernel)
  · rw [escape_of_le plain]
    split
    · exact .cons (by decide) (.cons plain (by decide))
    · exact .cons plain (by decide)

theorem printable_quoted (s : List Char) : Printable (quoted s) := by
  refine .cons (by decide) (.append ?_ (.cons (by decide) (by decide)))
  intro c member
  obtain ⟨d, -, escaped⟩ := List.mem_flatMap.mp member
  exact printable_escape d c escaped

theorem printable_digits (n : Nat) : Printable (digits n) := by
  intro c member
  have digit : c.isDigit := Nat.isDigit_of_mem_toDigits (by decide) (by decide) member
  simp only [Char.isDigit, Bool.and_eq_true, decide_eq_true_eq] at digit
  exact Nat.le_trans (by decide) digit.1

theorem printable_boolText (b : Bool) : Printable (boolText b) := by
  cases b <;> decide

mutual

theorem printable_compact : (v : Json) → Printable v.compact
  | null => by decide
  | bool b => printable_boolText b
  | number n => printable_digits n
  | string s => printable_quoted s.toList
  | array items => by
    rw [compact]
    exact .cons (by decide) (.append (printable_compactItems items) (.cons (by decide) (by decide)))
  | object members => by
    rw [compact]
    exact .cons (by decide) (.append (printable_compactMembers members) (.cons (by decide) (by decide)))

theorem printable_compactItems : (items : List Json) → Printable (compactItems items)
  | [] => by simp [Printable, compactItems]
  | [v] => printable_compact v
  | v :: w :: rest => .append (printable_compact v) (.cons (by decide) (printable_compactItems (w :: rest)))

theorem printable_compactMembers : (members : List (String × Json)) → Printable (compactMembers members)
  | [] => by simp [Printable, compactMembers]
  | [(k, v)] => by
    rw [compactMembers]
    exact .append (printable_quoted k.toList) (.cons (by decide) (printable_compact v))
  | (k, v) :: m :: rest => by
    rw [compactMembers]
    exact .append (.append (printable_quoted k.toList) (.cons (by decide) (printable_compact v)))
      (.cons (by decide) (printable_compactMembers (m :: rest)))

end

end CodeAudit.Json
