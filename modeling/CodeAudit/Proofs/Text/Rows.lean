import CodeAudit.Proofs.Text.Words

/-! Where a word stands in the lines of a text, said of the text as a whole. A word that begins with no blank and ends
with one stands in a trimmed line only if the line has something else behind it. -/
namespace CodeAudit.Text

variable {word line text front piece back row : List Char}

section Trimmed

theorem exists_of_trim (line : List Char) : ∃ before after, line = before ++ trim line ++ after ∧
    ∀ c ∈ (trim line).getLast?, isBlank c = false := by
  let inner := line.dropWhile isBlank
  have split : inner = trim line ++ (inner.reverse.takeWhile isBlank).reverse := by
    rw [trim, ← List.reverse_append, List.takeWhile_append_dropWhile, List.reverse_reverse]
  refine ⟨line.takeWhile isBlank, (inner.reverse.takeWhile isBlank).reverse, ?_, fun c last => ?_⟩
  · rw [List.append_assoc, ← split, List.takeWhile_append_dropWhile]
  · rw [trim, List.getLast?_reverse] at last
    have first := List.head?_dropWhile_not isBlank inner.reverse
    rw [Option.mem_def.mp last] at first
    exact first

/-- A word that ends with a blank keeps it in a trimmed line if something else stands behind it. -/
theorem infix_trim_iff {g b : Char} (first : word.head? = some g) (letter : isBlank g = false)
    (last : word.getLast? = some b) (blank : isBlank b) :
    word <:+: trim line ↔ ∃ before after, line = before ++ word ++ after ∧ ∃ c ∈ after, isBlank c = false := by
  obtain ⟨tail, begun⟩ : ∃ tail, word = g :: tail := List.head?_eq_some_iff.mp first
  have solid : word ≠ [] := begun ▸ List.cons_ne_nil g tail
  constructor
  · rintro ⟨u, v, place⟩
    obtain ⟨before, after, whole, visible⟩ := exists_of_trim line
    refine ⟨before ++ u, v ++ after, ?_, ?_⟩
    · rw [whole, ← place]
      simp
    · -- The trimmed line does not end with the word, whose last character is a blank.
      have more : v ≠ [] := by
        rintro rfl
        rw [← place, List.append_nil, List.getLast?_append_of_ne_nil _ solid] at visible
        exact absurd (visible b last) (by simp [blank])
      refine ⟨v.getLast more, List.mem_append_left _ (List.getLast_mem more), visible _ ?_⟩
      rw [← place, List.getLast?_append_of_ne_nil _ more]
      exact List.getLast?_eq_some_getLast more
  · rintro ⟨before, after, rfl, c, member, other⟩
    have front : (before ++ (word ++ after)).dropWhile isBlank = before.dropWhile isBlank ++ (word ++ after) := by
      rw [List.dropWhile_append]
      split
      · next none =>
        rw [List.isEmpty_iff.mp none, begun, List.cons_append, List.dropWhile_cons_of_neg (by simp [letter])]
        rfl
      · rfl
    have rear : after.reverse.dropWhile isBlank ≠ [] := by
      intro none
      have all := List.dropWhile_eq_nil_iff.mp none c (List.mem_reverse.mpr member)
      simp [all] at other
    refine ⟨before.dropWhile isBlank, (after.reverse.dropWhile isBlank).reverse, ?_⟩
    rw [trim, List.append_assoc before, front, ← List.append_assoc, List.reverse_append, List.dropWhile_append,
      if_neg (by simpa using rear), List.reverse_append, List.reverse_reverse]

end Trimmed

section Whole

/-- What is left of the first line of a text. -/
def firstRow (text : List Char) : List Char :=
  text.takeWhile (· ≠ '\n')

theorem firstRow_append (one : '\n' ∉ front) (rest : List Char) : firstRow (front ++ rest) = front ++ firstRow rest :=
  List.takeWhile_append_of_pos fun c member => by simpa using fun same : c = '\n' => one (same ▸ member)

theorem firstRow_behind (text : List Char) : firstRow (text.dropWhile (· ≠ '\n')) = [] := by
  induction text with
  | nil => rfl
  | cons c rest ih =>
    by_cases feed : c = '\n'
    · rw [List.dropWhile_cons_of_neg (by simpa using feed), firstRow, List.takeWhile_cons_of_neg (by simpa using feed)]
    · rw [List.dropWhile_cons_of_pos (by simpa using feed), ih]

theorem rows_begin (some : text ≠ []) : ∃ more, rows text = firstRow text :: more ∧ more ⊆ rows text.tail := by
  induction text with
  | nil => contradiction
  | cons c rest ih =>
    by_cases feed : c = '\n'
    · exact ⟨rows rest, by rw [feed, rows_feed, firstRow, List.takeWhile_cons_of_neg (by simp)], List.Subset.refl _⟩
    rw [rows_cons feed, firstRow, List.takeWhile_cons_of_pos (by simpa using feed), ← firstRow, List.tail_cons]
    cases rest with
    | nil => exact ⟨[], rfl, List.nil_subset _⟩
    | cons d rest =>
      obtain ⟨more, begins, -⟩ := ih (List.cons_ne_nil _ _)
      exact ⟨more, by rw [begins, begun], begins ▸ List.subset_cons_self ..⟩

/-- A line is what is left of the first line behind some front of the text. -/
theorem exists_of_mem_rows (member : row ∈ rows text) : ∃ front rest, text = front ++ rest ∧ row = firstRow rest := by
  induction text with
  | nil => cases member
  | cons c rest ih =>
    obtain ⟨more, begins, below⟩ := rows_begin (List.cons_ne_nil c rest)
    rw [begins] at member
    rcases List.mem_cons.mp member with first | later
    · exact ⟨[], c :: rest, rfl, first⟩
    · obtain ⟨front, back, rfl, here⟩ := ih (below later)
      exact ⟨c :: front, back, rfl, here⟩

/-- Behind any front of a text, what is left of the first line is the end of a line. -/
theorem exists_mem_rows (front : List Char) (some : text ≠ []) :
    ∃ before, before ++ firstRow text ∈ rows (front ++ text) := by
  induction front with
  | nil =>
    obtain ⟨more, begins, -⟩ := rows_begin some
    exact ⟨[], by rw [List.nil_append, List.nil_append, begins]; exact List.mem_cons_self ..⟩
  | cons c front ih =>
    obtain ⟨before, member⟩ := ih
    rw [List.cons_append]
    by_cases feed : c = '\n'
    · exact ⟨before, by rw [feed, rows_feed]; exact List.mem_cons_of_mem _ member⟩
    rw [rows_cons feed]
    cases found : rows (front ++ text) with
    | nil => rw [found] at member; cases member
    | cons row more =>
      rw [found] at member
      rcases List.mem_cons.mp member with first | later
      · exact ⟨c :: before, by rw [List.cons_append, first]; exact List.mem_cons_self ..⟩
      · exact ⟨before, List.mem_cons_of_mem _ later⟩

/-- What is said of a word in a line and of the end of the line, said of the whole text. -/
theorem exists_row_iff (some : word ≠ []) (one : '\n' ∉ word) (Q : List Char → Prop) :
    (∃ row ∈ rows text, ∃ before after, row = before ++ word ++ after ∧ Q after) ↔
      ∃ before after, text = before ++ word ++ after ∧ Q (firstRow after) := by
  constructor
  · rintro ⟨row, member, before, after, place, holds⟩
    obtain ⟨front, rest, rfl, rfl⟩ := exists_of_mem_rows member
    have split : rest = before ++ word ++ (after ++ rest.dropWhile (· ≠ '\n')) := by
      rw [← List.append_assoc, ← place, firstRow, List.takeWhile_append_dropWhile]
    refine ⟨front ++ before, after ++ rest.dropWhile (· ≠ '\n'), ?_, ?_⟩
    · rw [List.append_assoc front, List.append_assoc front, ← split]
    have unbroken : '\n' ∉ before ++ word ++ after := by
      rw [← place]
      exact fun feed => by simpa using List.mem_takeWhile_imp feed
    have ends : firstRow (rest.dropWhile (· ≠ '\n')) = [] := firstRow_behind rest
    rw [firstRow_append (fun feed => unbroken (List.mem_append_right _ feed)), ends, List.append_nil]
    exact holds
  · rintro ⟨before, after, rfl, holds⟩
    obtain ⟨begun, member⟩ := exists_mem_rows before (List.append_ne_nil_of_left_ne_nil some after)
    rw [firstRow_append one, ← List.append_assoc, ← List.append_assoc] at member
    exact ⟨_, member, begun, firstRow after, rfl, holds⟩

end Whole

end CodeAudit.Text
