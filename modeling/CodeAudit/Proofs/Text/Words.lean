import CodeAudit.Proofs.Text.Lines

/-! Words in lines. Whether a word stands in a line does not depend on the blanks around the line or on how the line
ends, and for words of plain letters it only matters what becomes of such letters when a line is made small. -/
namespace CodeAudit.Text

theorem holds_iff {word text : List Char} : holds word text = true ↔ word <:+: text := by
  induction text with
  | nil => simp [holds]
  | cons c rest ih => rw [holds, Bool.or_eq_true, List.isPrefixOf_iff_prefix, ih, List.infix_cons_iff]

section Blanks

variable {before after : List Char}

theorem dropWhile_blanks (blank : ∀ c ∈ before, isBlank c) (text : List Char) :
    (before ++ text).dropWhile isBlank = text.dropWhile isBlank :=
  List.dropWhile_append_of_pos blank

/-- Blanks around a text do not count. -/
theorem trim_blanks (first : ∀ c ∈ before, isBlank c) (last : ∀ c ∈ after, isBlank c) (text : List Char) :
    trim (before ++ text ++ after) = trim text := by
  have last' : ∀ c ∈ after.reverse, isBlank c := fun c member => last c (List.mem_reverse.mp member)
  rw [trim, List.append_assoc, dropWhile_blanks first, List.dropWhile_append]
  split
  · next empty =>
    have nothing : after.dropWhile isBlank = [] := List.dropWhile_eq_nil_iff.mpr last
    rw [trim, List.isEmpty_iff.mp empty, nothing]
  · rw [List.reverse_append, dropWhile_blanks last', trim]

end Blanks

/-- Lines that differ in nothing but the blanks around them. -/
def Respaced (a b : List Char) : Prop :=
  ∃ text before after before' after', a = before ++ text ++ after ∧ b = before' ++ text ++ after' ∧
    ∀ c ∈ before ++ after ++ before' ++ after', isBlank c

theorem trim_eq_of_respaced {a b : List Char} (respaced : Respaced a b) : trim a = trim b := by
  obtain ⟨text, before, after, before', after', rfl, rfl, blank⟩ := respaced
  simp only [List.forall_mem_append] at blank
  obtain ⟨⟨⟨first, last⟩, first'⟩, last'⟩ := blank
  rw [trim_blanks first last, trim_blanks first' last']

section LineEnds

/-- The same text with other line ends: line feeds get or lose carriage returns in front of them. -/
inductive Reended : List Char → List Char → Prop
  | nil : Reended [] []
  | keep (c : Char) {a b : List Char} (rest : Reended a b) : Reended (c :: a) (c :: b)
  | add {a b : List Char} (rest : Reended a b) : Reended ('\n' :: a) ('\r' :: '\n' :: b)
  | drop {a b : List Char} (rest : Reended a b) : Reended ('\r' :: '\n' :: a) ('\n' :: b)

/-- One more character in front of the first line. -/
def begun (c : Char) : List (List Char) → List (List Char)
  | [] => [[c]]
  | row :: more => (c :: row) :: more

/-- The lines of a text with the carriage returns in front of their line feeds. -/
def rows : List Char → List (List Char)
  | [] => []
  | c :: rest => if c = '\n' then [] :: rows rest else begun c (rows rest)

/-- A line and the same with a carriage return at its end, or without one. -/
def Returned (a b : List Char) : Prop :=
  a = b ∨ a = b ++ ['\r'] ∨ b = a ++ ['\r']

theorem Returned.cons {a b : List Char} (c : Char) (returned : Returned a b) : Returned (c :: a) (c :: b) := by
  rcases returned with rfl | rfl | rfl
  · exact .inl rfl
  · exact .inr (.inl rfl)
  · exact .inr (.inr rfl)

theorem trim_eq_of_returned {a b : List Char} (returned : Returned a b) : trim a = trim b := by
  have nothing : ∀ c ∈ ([] : List Char), isBlank c := by simp
  have return' : ∀ c ∈ ['\r'], isBlank c := List.forall_mem_singleton.mpr rfl
  have blank (t : List Char) : trim (t ++ ['\r']) = trim t := trim_blanks nothing return' t
  rcases returned with rfl | rfl | rfl
  · rfl
  · exact blank b
  · exact (blank a).symm

theorem map_trim_of_returned {as bs : List (List Char)} (returned : List.Forall₂ Returned as bs) :
    as.map trim = bs.map trim := by
  induction returned with
  | nil => rfl
  | cons first _ ih => rw [List.map_cons, List.map_cons, trim_eq_of_returned first, ih]

@[simp] theorem rows_feed (rest : List Char) : rows ('\n' :: rest) = [] :: rows rest := by
  simp [rows]

theorem rows_cons {c : Char} (feed : c ≠ '\n') (rest : List Char) : rows (c :: rest) = begun c (rows rest) := by
  rw [rows, if_neg feed]

theorem returned_begun (c : Char) {as bs : List (List Char)} (returned : List.Forall₂ Returned as bs) :
    List.Forall₂ Returned (begun c as) (begun c bs) := by
  cases returned with
  | nil => exact .cons (.inl rfl) .nil
  | cons first others => exact .cons (first.cons c) others

theorem returned_lines (text : List Char) : List.Forall₂ Returned (lines text) (rows text) := by
  fun_induction lines text with
  | case1 => exact .nil
  | case2 rest ih => exact rows_feed rest ▸ .cons (.inl rfl) ih
  | case3 rest ih =>
    rw [rows_cons (by decide), rows_feed]
    exact .cons (.inr (.inr rfl)) ih
  | case4 c rest feed _ none ih =>
    rw [rows_cons feed]
    exact returned_begun c (none ▸ ih)
  | case5 c rest feed _ line more found ih =>
    rw [rows_cons feed]
    exact returned_begun c (found ▸ ih)

theorem returned_rows {a b : List Char} (reended : Reended a b) : List.Forall₂ Returned (rows a) (rows b) := by
  induction reended with
  | nil => exact .nil
  | keep c _ ih =>
    by_cases feed : c = '\n'
    · subst feed
      rw [rows_feed, rows_feed]
      exact .cons (.inl rfl) ih
    · rw [rows_cons feed, rows_cons feed]
      exact returned_begun c ih
  | add _ ih =>
    rw [rows_feed, rows_cons (by decide), rows_feed]
    exact .cons (.inr (.inr rfl)) ih
  | drop _ ih =>
    rw [rows_cons (by decide), rows_feed, rows_feed]
    exact .cons (.inr (.inl rfl)) ih

/-- Other line ends leave what stands in the lines. -/
theorem map_trim_lines {a b : List Char} (reended : Reended a b) : (lines a).map trim = (lines b).map trim := by
  rw [map_trim_of_returned (returned_lines a), map_trim_of_returned (returned_rows reended),
    map_trim_of_returned (returned_lines b)]

end LineEnds

section Capitals

/-- What a character can become when it is made small. Of the characters beyond ASCII there are only two in whose small
forms characters of ASCII occur, and these are `i` and `k`. -/
def SmallForm (c : Char) (small : List Char) : Prop :=
  if c.toNat < 128 then small = [c.toLower]
  else small ≠ [] ∧ ∀ x ∈ small, x.toNat < 128 → x = 'i' ∨ x = 'k'

/-- Makes a text small, each character by itself or as its surroundings demand. -/
def Lowercasing (lowercase : List Char → List Char) : Prop :=
  ∀ text, ∃ forms, List.Forall₂ SmallForm text forms ∧ lowercase text = forms.flatten

/-- A letter whose small form is that of no character beyond ASCII. -/
def isPlain (x : Char) : Bool :=
  x.toNat < 128 && x != 'i' && x != 'k'

theorem toLower_of_not_ascii {c : Char} (beyond : ¬ c.toNat < 128) : c.toLower = c := by
  have big : ¬ (c.val ≥ 'A'.val ∧ c.val ≤ 'Z'.val) := by
    rintro ⟨-, upper⟩
    have : c.val.toNat ≤ 90 := upper
    exact beyond (by rw [Char.toNat]; omega)
  rw [Char.toLower, dif_neg big]

theorem smallForm_toLower (c : Char) : SmallForm c [c.toLower] := by
  unfold SmallForm
  split
  · rfl
  · next beyond =>
    refine ⟨by simp, fun x member ascii => ?_⟩
    rw [List.mem_singleton.mp member, toLower_of_not_ascii beyond] at ascii
    exact absurd ascii beyond

/-- To make only the letters of ASCII small is one way. -/
theorem lowercasing_lower : Lowercasing lower := by
  intro text
  refine ⟨text.map fun c => [c.toLower], ?_, ?_⟩
  · rw [List.forall₂_map_right_iff]
    exact List.forall₂_same.mpr fun c _ => smallForm_toLower c
  · induction text with
    | nil => rfl
    | cons c text ih => simpa [lower] using ih

variable {word text : List Char} {forms : List (List Char)}

/-- A word does not begin in front of a text that has none of its letters. -/
theorem infix_append_iff {front : List Char} (some : word ≠ []) (others : ∀ x ∈ front, x ∉ word) (rest : List Char) :
    word <:+: front ++ rest ↔ word <:+: rest := by
  induction front with
  | nil => rfl
  | cons c front ih =>
    obtain ⟨first, others⟩ := List.forall_mem_cons.mp others
    have elsewhere : ¬ word <+: c :: (front ++ rest) := by
      obtain ⟨x, word, rfl⟩ := List.exists_cons_of_ne_nil some
      rw [List.cons_prefix_cons]
      rintro ⟨rfl, -⟩
      exact first (List.mem_cons_self ..)
    rw [List.cons_append, List.infix_cons_iff, or_iff_right elsewhere, ih others]

/-- A form of a character beyond ASCII has no plain letters. -/
theorem notMem_of_smallForm {c : Char} {form : List Char} (plain : ∀ x ∈ word, isPlain x) (beyond : ¬ c.toNat < 128)
    (small : SmallForm c form) : ∀ x ∈ form, x ∉ word := by
  intro x member inWord
  rw [SmallForm, if_neg beyond] at small
  have letter := plain x inWord
  simp only [isPlain, Bool.and_eq_true, decide_eq_true_eq, bne_iff_ne] at letter
  exact (small.2 x member letter.1.1).elim letter.1.2 letter.2

theorem prefix_flatten_iff (plain : ∀ x ∈ word, isPlain x) (small : List.Forall₂ SmallForm text forms) :
    word <+: forms.flatten ↔ word <+: lower text := by
  induction small generalizing word with
  | nil => rfl
  | @cons c form text forms first _ ih =>
    cases word with
    | nil => simp
    | cons x word =>
      by_cases ascii : c.toNat < 128
      · rw [SmallForm, if_pos ascii] at first
        subst first
        rw [List.flatten_cons, List.singleton_append, lower, List.map_cons, List.cons_prefix_cons,
          List.cons_prefix_cons, ih (List.forall_mem_cons.mp plain).2, lower]
      · have foreign := notMem_of_smallForm plain ascii first
        have own := notMem_of_smallForm plain ascii (smallForm_toLower c)
        rw [SmallForm, if_neg ascii] at first
        obtain ⟨y, form, rfl⟩ := List.exists_cons_of_ne_nil first.1
        refine iff_of_false ?_ ?_
        · rw [List.flatten_cons, List.cons_append, List.cons_prefix_cons]
          rintro ⟨rfl, -⟩
          exact foreign x (List.mem_cons_self ..) (List.mem_cons_self ..)
        · rw [lower, List.map_cons, List.cons_prefix_cons]
          rintro ⟨rfl, -⟩
          exact own _ (List.mem_singleton_self _) (List.mem_cons_self ..)

theorem infix_flatten_iff (some : word ≠ []) (plain : ∀ x ∈ word, isPlain x)
    (small : List.Forall₂ SmallForm text forms) : word <:+: forms.flatten ↔ word <:+: lower text := by
  induction small with
  | nil => rfl
  | @cons c form text forms first others ih =>
    have split : lower (c :: text) = [c.toLower] ++ lower text := rfl
    by_cases ascii : c.toNat < 128
    · have here := prefix_flatten_iff plain (.cons first others)
      rw [SmallForm, if_pos ascii] at first
      subst first
      rw [List.flatten_cons, List.singleton_append] at here
      rw [List.flatten_cons, split, List.singleton_append, List.singleton_append, List.infix_cons_iff,
        List.infix_cons_iff, here, ih]
      rfl
    · rw [List.flatten_cons, split, infix_append_iff some (notMem_of_smallForm plain ascii first),
        infix_append_iff some (notMem_of_smallForm plain ascii (smallForm_toLower c)), ih]

/-- To look for a word of plain letters it is enough to make the letters of ASCII small. -/
theorem infix_lowercase_iff {lowercase : List Char → List Char} (small : Lowercasing lowercase) (some : word ≠ [])
    (plain : word.all isPlain) (text : List Char) : word <:+: lowercase text ↔ word <:+: lower text := by
  obtain ⟨forms, each, same⟩ := small text
  rw [same, infix_flatten_iff some (List.all_eq_true.mp plain) each]

end Capitals

end CodeAudit.Text
