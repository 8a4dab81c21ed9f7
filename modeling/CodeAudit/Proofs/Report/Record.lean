import CodeAudit.Proofs.Audit.Records
import CodeAudit.Proofs.CommandLine.Entries
import CodeAudit.Proofs.Json.Forms

/-!
What a record of a log says, read back from its text. A name may be any text and so may have in it whatever stands
between the parts of a record, so a record is read from its end: the last separator is the one in front of the report,
and the last separator in front of that is the one in front of the number.
-/
namespace CodeAudit

namespace Text

/-- What stands in front of the last place of a separator in a text, and what stands behind it. -/
def splitLast? (separator : List Char) : List Char → Option (List Char × List Char)
  | [] => (separator.isPrefixOf? []).map ([], ·)
  | c :: t =>
    match splitLast? separator t with
    | some (front, back) => some (c :: front, back)
    | none => (separator.isPrefixOf? (c :: t)).map ([], ·)

variable {separator t front back : List Char}

theorem isPrefixOf?_eq_none_iff : separator.isPrefixOf? t = none ↔ ¬ separator <+: t := by
  rw [← List.isPrefixOf_iff_prefix, ← List.isSome_isPrefixOf?_eq_isPrefixOf, Bool.not_eq_true, Option.isSome_eq_false_iff,
    Option.isNone_iff_eq_none]

/-- A text in which the separator does not stand is not split. -/
theorem splitLast?_eq_none_iff : splitLast? separator t = none ↔ ¬ separator <:+: t := by
  induction t with
  | nil => rw [splitLast?, Option.map_eq_none_iff, isPrefixOf?_eq_none_iff, List.prefix_nil, List.infix_nil]
  | cons c t ih =>
    rw [List.infix_cons_iff, not_or, ← ih, ← isPrefixOf?_eq_none_iff, splitLast?]
    cases splitLast? separator t <;> simp

theorem splitLast?_spec (split : splitLast? separator t = some (front, back)) :
    t = front ++ separator ++ back ∧ ∀ a b, t = a ++ separator ++ b → a.length ≤ front.length := by
  induction t generalizing front with
  | nil =>
    obtain ⟨rest, opened, ends⟩ := Option.map_eq_some_iff.mp split
    cases ends
    refine ⟨(List.isPrefixOf?_eq_some_iff_append_eq.mp opened).symm, fun a b place => ?_⟩
    simp_all
  | cons c t ih =>
    rw [splitLast?] at split
    cases tail : splitLast? separator t with
    | some parts =>
      rw [tail] at split
      cases split
      obtain ⟨whole, last⟩ := ih tail
      refine ⟨congrArg (c :: ·) whole, fun a b place => ?_⟩
      cases a with
      | nil => exact Nat.zero_le _
      | cons d a => exact Nat.succ_le_succ (last a b (List.cons.inj place).2)
    | none =>
      rw [tail] at split
      obtain ⟨rest, opened, ends⟩ := Option.map_eq_some_iff.mp split
      cases ends
      refine ⟨(List.isPrefixOf?_eq_some_iff_append_eq.mp opened).symm, fun a b place => ?_⟩
      cases a with
      | nil => exact Nat.le_refl _
      | cons d a => exact absurd ⟨a, b, (List.cons.inj place).2.symm⟩ (splitLast?_eq_none_iff.mp tail)

/-- A text is split at the last place of the separator. -/
theorem splitLast?_eq_some_iff : splitLast? separator t = some (front, back) ↔
    t = front ++ separator ++ back ∧ ∀ a b, t = a ++ separator ++ b → a.length ≤ front.length := by
  refine ⟨splitLast?_spec, ?_⟩
  rintro ⟨whole, last⟩
  cases split : splitLast? separator t with
  | none => exact absurd ⟨front, back, whole.symm⟩ (splitLast?_eq_none_iff.mp split)
  | some parts =>
    obtain ⟨whole', last'⟩ := splitLast?_spec split
    have same : parts.1.length = front.length := Nat.le_antisymm (last _ _ whole') (last' _ _ whole)
    rw [List.append_assoc] at whole whole'
    obtain ⟨fronts, backs⟩ := List.append_inj (whole'.symm.trans whole) same
    rw [← fronts, ← List.append_cancel_left backs]

/-- The separator does not stand further behind if its last character does not. -/
theorem splitLast?_append {c : Char} (ends : separator.getLast? = some c) (apart : c ∉ back) :
    splitLast? separator (front ++ separator ++ back) = some (front, back) := by
  refine splitLast?_eq_some_iff.mpr ⟨rfl, fun a b place => Nat.le_of_not_lt fun further => apart ?_⟩
  obtain ⟨rest, longer, behind⟩ | ⟨rest, shorter, -⟩ := List.append_eq_append_iff.mp place
  · have solid : rest ≠ [] := by
      rintro rfl
      have lengths := congrArg List.length longer
      simp only [List.length_append, List.length_nil] at lengths
      omega
    have last : (front ++ separator ++ rest).getLast? = some c := by
      rw [← longer, List.getLast?_append, ends, Option.some_or]
    rw [List.getLast?_append_of_ne_nil _ solid] at last
    rw [behind]
    exact List.mem_append_left b (List.mem_of_getLast? last)
  · have lengths := congrArg List.length shorter
    simp only [List.length_append] at lengths
    omega

end Text

/-! ### The parts of a record -/

theorem blank_notMem_digits (n : Nat) : ' ' ∉ Nat.toDigits 10 n := fun member =>
  absurd (Nat.isDigit_of_mem_toDigits (by decide) (by decide) member) (by decide)

/-- Only commas stand between the items of an array. -/
theorem Json.blank_notMem_compactItems : (items : List Json) → (∀ v ∈ items, ' ' ∉ v.compact) →
    ' ' ∉ Json.compactItems items
  | [], _ => by simp [compactItems]
  | [v], apart => apart v (by simp)
  | v :: w :: rest, apart => by
    obtain ⟨head, tail⟩ := List.forall_mem_cons.mp apart
    simpa [compactItems, head] using blank_notMem_compactItems (w :: rest) tail

/-- There are no blanks in the text of a report: its keys, its numbers and the names of patterns have none. -/
theorem Report.blank_notMem_text (r : Report) : ' ' ∉ r.text := by
  have form : Json.reportCodec.encode r = .object [
      ("detected_patterns", .array (r.patterns.toList.map fun p => .string p.name)),
      ("max_nesting_depth", .number r.maxNestingDepth), ("conditional_depth", .number r.conditionalDepth)] := rfl
  have names : ' ' ∉ Json.compactItems (r.patterns.toList.map fun p => .string p.name) := by
    refine Json.blank_notMem_compactItems _ (List.forall_mem_map.mpr fun p _ => ?_)
    cases p <;> decide
  have keys : ∀ k ∈ ["detected_patterns", "max_nesting_depth", "conditional_depth"], ' ' ∉ Json.quoted k.toList := by
    decide
  rw [Report.text, Json.Codec.write, form]
  simpa [Json.compact, Json.compactMembers, names, Json.digits, blank_notMem_digits] using keys

open CommandLine.FunctionEntry (natural? natural?_digits)

/-- The name, the number and the report that a record of a log tells, read from its end. -/
def readLogLine? (line : List Char) : Option (String × Nat × Report) := do
  let (front, report) ← Text.splitLast? " | Anti-patterns: ".toList line
  let (named, complexity) ← Text.splitLast? " | Complexity: ".toList front
  let name ← "Function: ".toList.isPrefixOf? named
  return (String.ofList name, ← natural? complexity, ← (Json.reportCodec.decode report).toOption)

theorem readLogLine?_logLine (name : String) (complexity : Nat) {r : Report} (fits : r.Fits) :
    readLogLine? (logLine name complexity r) = some (name, complexity, r) := by
  have report : Text.splitLast? " | Anti-patterns: ".toList (logLine name complexity r) = some (_, r.text) :=
    Text.splitLast?_append (c := ' ') (by decide) r.blank_notMem_text
  have number (named : List Char) : Text.splitLast? " | Complexity: ".toList
      (named ++ " | Complexity: ".toList ++ Nat.toDigits 10 complexity) = some (named, Nat.toDigits 10 complexity) :=
    Text.splitLast?_append (c := ' ') (by decide) (blank_notMem_digits complexity)
  have opened : "Function: ".toList.isPrefixOf? ("Function: ".toList ++ name.toList) = some name.toList :=
    List.isPrefixOf?_eq_some_iff_append_eq.mpr rfl
  have decoded : Json.reportCodec.decode r.text = .ok r := Json.reportCodec_lawful.decode_write fits
  simp only [readLogLine?, report, number, opened, natural?_digits, decoded, String.ofList_toList, bind, Option.bind,
    Except.toOption, pure]

/-- A record tells its name, its number and its report, whatever the name is. So no two records that differ in one of
them have the same text. -/
theorem logLine_determines (name : String) (complexity : Nat) {r : Report} (fits : r.Fits) :
    readLogLine? (logLine name complexity r) = some (name, complexity, r) ∧
      ∀ (name' : String) (complexity' : Nat) (r' : Report), r'.Fits →
        logLine name complexity r = logLine name' complexity' r' →
          name = name' ∧ complexity = complexity' ∧ r = r' := by
  refine ⟨readLogLine?_logLine name complexity fits, fun name' complexity' r' fits' same => ?_⟩
  have read := readLogLine?_logLine name complexity fits
  rw [same, readLogLine?_logLine name' complexity' fits'] at read
  cases read
  exact ⟨rfl, rfl, rfl⟩

/-- The name has both separators in it, and behind them a whole record. -/
theorem logLine_determines_of_record_in_name :
    let inner := logLine "f" 7 ⟨.ofList [.deepNesting], 5, 5⟩
    let name := "g | Complexity: 3 | Anti-patterns: " ++ String.ofList inner
    let r : Report := ⟨.ofList [.globalVariable, .longLine], 1, 2⟩
    r.Fits ∧ readLogLine? (logLine name 12 r) = some (name, 12, r) := by
  intro inner name r
  have fits : r.Fits := ⟨by decide, by decide⟩
  exact ⟨fits, (logLine_determines name 12 fits).1⟩

end CodeAudit
