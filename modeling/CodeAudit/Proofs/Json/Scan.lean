import CodeAudit.Json.Token
import CodeAudit.Proofs.Json.Written

/-! Reading back the smallest parts of JSON texts. -/
namespace CodeAudit.Json

@[simp] theorem endOf_nil (p : Position) : endOf p [] = p := rfl

@[simp] theorem endOf_cons (p : Position) (c : Char) (t : List Char) : endOf p (c :: t) = endOf (p.after c) t := rfl

@[simp] theorem endOf_append (p : Position) (s t : List Char) : endOf p (s ++ t) = endOf (endOf p s) t :=
  List.foldl_append

/-- A text with which no number goes on. -/
def Stops (rest : List Char) : Prop :=
  ∀ c ∈ rest.head?, c.isDigit = false ∧ c ≠ '.' ∧ c ≠ 'e' ∧ c ≠ 'E'

theorem stops_nil : Stops [] := by
  simp [Stops]

theorem stops_cons {c : Char} {rest : List Char} :
    Stops (c :: rest) ↔ c.isDigit = false ∧ c ≠ '.' ∧ c ≠ 'e' ∧ c ≠ 'E' := by
  simp [Stops]

/-- Wherever a text stands, a reader takes all of it and nothing behind it for a value. -/
def Reads {α : Type} (read : Reader α) (t : List Char) (a : α) : Prop :=
  ∀ p rest, Stops rest → read ⟨p, t ++ rest⟩ = .ok (a, ⟨endOf p t, rest⟩)

/-- No blank is skipped where none is. -/
theorem skipBlanks_cons {c : Char} (solid : isSpace c = false) (p : Position) (rest : List Char) :
    skipBlanks ⟨p, c :: rest⟩ = ⟨p, c :: rest⟩ := by
  simp [skipBlanks, Cursor.dropWhile, Cursor.dropWhile.go, solid]

@[simp] theorem skipBlanks_nil (p : Position) : skipBlanks ⟨p, []⟩ = ⟨p, []⟩ := rfl

/-- Characters with a property are dropped up to the first one without it. -/
theorem dropWhile_append {f : Char → Bool} {t rest : List Char} (all : ∀ c ∈ t, f c = true)
    (stops : ∀ c ∈ rest.head?, f c = false) (p : Position) :
    Cursor.dropWhile f ⟨p, t ++ rest⟩ = ⟨endOf p t, rest⟩ := by
  rw [Cursor.dropWhile]
  dsimp only
  induction t generalizing p with
  | nil =>
    cases rest with
    | nil => rfl
    | cons c rest => exact if_neg (by simpa using stops)
  | cons c t ih =>
    obtain ⟨first, others⟩ := List.forall_mem_cons.mp all
    rw [List.cons_append, Cursor.dropWhile.go, if_pos first, ih others, endOf_cons]

/-- A text that only keeps its neighbours apart. -/
def Blank (t : List Char) : Prop :=
  ∀ c ∈ t, isSpace c = true

theorem blank_nil : Blank [] := by
  simp [Blank]

theorem skipBlanks_append {gap : List Char} (blank : Blank gap) {c : Char} (solid : isSpace c = false) (p : Position)
    (rest : List Char) : skipBlanks ⟨p, gap ++ c :: rest⟩ = ⟨endOf p gap, c :: rest⟩ :=
  dropWhile_append blank (by simpa using solid) p

theorem word_append (w : List Char) (p : Position) (rest : List Char) :
    word w ⟨p, w ++ rest⟩ = .ok ⟨endOf p w, rest⟩ := by
  induction w generalizing p with
  | nil => rfl
  | cons c w ih => simp [word, ih]

/-! ### Strings -/

theorem hexValue4?_control : ∀ n < 32, hexValue4? '0' '0' (hexDigit (n / 16)) (hexDigit (n % 16)) = some n := by
  decide +kernel

/-- A string goes on behind a character that was read. -/
def withHead (c : Char) (r : Except Fault (List Char × Cursor)) : Except Fault (List Char × Cursor) :=
  r.map fun (s, r) => (c :: s, r)

/-- A string ends with a quote that is not escaped, and goes on behind other characters but those of control. -/
theorem stringFrom_unescaped {c : Char} (other : c ≠ '\\') (p : Position) (rest : List Char) :
    stringFrom none p (c :: rest) =
      if c = '"' then .ok ([], ⟨p.after c, rest⟩)
      else if c.toNat < 32 then .error ⟨controlInString, p.after c⟩
      else withHead c (stringFrom none (p.after c) rest) := by
  rw [stringFrom.eq_def]
  simp [other, withHead]

theorem stringFrom_plain {c : Char} (other : c ≠ '"' ∧ c ≠ '\\') (plain : 32 ≤ c.toNat) (p : Position)
    (rest : List Char) : stringFrom none p (c :: rest) = withHead c (stringFrom none (p.after c) rest) := by
  rw [stringFrom_unescaped other.2, if_neg other.1, if_neg (Nat.not_lt.mpr plain)]

theorem stringFrom_letter {e c : Char} (letter : e ≠ 'u') (means : unescape? e = some c) (p : Position)
    (rest : List Char) :
    stringFrom none p ('\\' :: e :: rest) = withHead c (stringFrom none (endOf p ['\\', e]) rest) := by
  rw [stringFrom.eq_def]
  simp [letter, means, withHead]

theorem stringFrom_code {n : Nat} (control : n < 32) (p : Position) (rest : List Char) :
    stringFrom none p ('\\' :: 'u' :: '0' :: '0' :: hexDigit (n / 16) :: hexDigit (n % 16) :: rest) =
      withHead (.ofNat n)
        (stringFrom none (endOf p ['\\', 'u', '0', '0', hexDigit (n / 16), hexDigit (n % 16)]) rest) := by
  have single : join none n = some (.inl (.ofNat n)) := by
    unfold join
    simp
    omega
  rw [stringFrom.eq_def]
  simp [hexValue4?_control n control, single, withHead]

theorem stringFrom_end (p : Position) (rest : List Char) :
    stringFrom none p ('"' :: rest) = .ok ([], ⟨p.after '"', rest⟩) := by
  rw [stringFrom_unescaped (by decide), if_pos rfl]

/-- A character is read back from its form in a string. -/
theorem stringFrom_escape (c : Char) (p : Position) (rest : List Char) :
    stringFrom none p (escape c ++ rest) = withHead c (stringFrom none (endOf p (escape c)) rest) := by
  rcases Nat.lt_or_ge c.toNat 32 with control | plain
  · unfold escape
    split
    all_goals first | exact stringFrom_letter (by decide) rfl p rest | skip
    rw [if_pos control]
    have code := stringFrom_code control p rest
    rw [Char.ofNat_toNat] at code
    exact code
  · rw [escape_of_le plain]
    split
    · next special =>
      rcases special with rfl | rfl <;> exact stringFrom_letter (by decide) rfl p rest
    · next other => exact stringFrom_plain (not_or.mp other) plain p rest

/-- A string is read back from behind its opening quote. -/
theorem readQuoted_quoted (s : List Char) (p : Position) (rest : List Char) :
    readQuoted (Cursor.next ⟨p, quoted s ++ rest⟩) = .ok (s, ⟨endOf p (quoted s), rest⟩) := by
  rw [quoted, List.cons_append, List.cons_append, Cursor.next_cons, endOf_cons, List.append_assoc]
  generalize p.after '"' = p
  unfold readQuoted
  induction s generalizing p with
  | nil => exact stringFrom_end p rest
  | cons c s ih =>
    rw [List.flatMap_cons, List.append_assoc, stringFrom_escape, ih, List.append_assoc]
    simp only [withHead, Except.map, endOf_append]

/-! ### Numbers -/

theorem span_append {f : Char → Bool} {t rest : List Char} (all : ∀ c ∈ t, f c = true)
    (stops : ∀ c ∈ rest.head?, f c = false) (p : Position) :
    Cursor.span f ⟨p, t ++ rest⟩ = (t, ⟨endOf p t, rest⟩) := by
  have taken : rest.takeWhile f = [] := by
    cases rest with
    | nil => rfl
    | cons c rest => exact List.takeWhile_cons_of_neg (by simpa using stops)
  rw [Cursor.span, List.takeWhile_append_of_pos all, taken, List.append_nil, dropWhile_append all stops]

theorem le_ofDigitChars (ds : List Char) (n : Nat) : n ≤ Nat.ofDigitChars 10 ds n := by
  induction ds generalizing n with
  | nil => exact Nat.le_refl n
  | cons d ds ih =>
    rw [Nat.ofDigitChars_cons]
    exact Nat.le_trans (by omega) (ih _)

/-- Digits are taken as long as the number has at most 64 bits. -/
theorem accumulate_of_lt {ds : List Char} {n : Nat} (fits : Nat.ofDigitChars 10 ds n < 2 ^ 64) :
    accumulate n ds = (Nat.ofDigitChars 10 ds n, []) := by
  induction ds generalizing n with
  | nil => rfl
  | cons d ds ih =>
    rw [Nat.ofDigitChars_cons, Nat.mul_comm] at fits
    have small : n * 10 + digitValue d < Nat.pow 2 64 := Nat.lt_of_le_of_lt (le_ofDigitChars ds _) fits
    rw [accumulate, if_pos small, Nat.ofDigitChars_cons, Nat.mul_comm 10 n]
    exact ih fits

theorem digits_cons (n : Nat) : ∃ d ds, digits n = d :: ds ∧ d.isDigit = true := by
  obtain ⟨d, ds, split⟩ := List.exists_cons_of_ne_nil (Nat.toDigits_ne_nil (n := n) (b := 10))
  exact ⟨d, ds, split, Nat.isDigit_of_mem_toDigits (by decide) (by decide) (split ▸ List.mem_cons_self)⟩

theorem ne_of_isDigit {c d : Char} (digit : d.isDigit = true) (other : c.isDigit = false) : d ≠ c := by
  rintro rfl
  exact absurd digit (by simp [other])

theorem isSpace_of_isDigit {d : Char} (digit : d.isDigit = true) : isSpace d = false := by
  have apart {c : Char} (other : c.isDigit = false) : d ≠ c := ne_of_isDigit digit other
  simp [isSpace, apart]

/-- No number but zero is written with a zero in front. -/
theorem head?_digits {n : Nat} (positive : 0 < n) : (digits n).head? ≠ some '0' := by
  induction n using Nat.strong_induction_on with
  | h n ih =>
    unfold digits
    rcases Nat.lt_or_ge n 10 with small | large
    · rw [Nat.toDigits_of_lt_base small]
      have each : ∀ n < 10, 0 < n → [n.digitChar].head? ≠ some '0' := by decide
      exact each n small positive
    · have shorter := ih (n / 10) (by omega) (by omega)
      obtain ⟨d, ds, split, -⟩ := digits_cons (n / 10)
      rw [Nat.toDigits_of_base_le (by decide) large]
      unfold digits at split shorter
      rw [split] at shorter ⊢
      exact shorter

theorem finishNumber_of_stops {rest : List Char} (stops : Stops rest) (n : Nat) (p : Position) :
    finishNumber false n 0 ⟨p, rest⟩ = .ok (.natural n, ⟨p, rest⟩) := by
  cases rest with
  | nil => rfl
  | cons c rest =>
    obtain ⟨-, point, small, large⟩ := stops_cons.mp stops
    simp [finishNumber, startsExponent, point, small, large]

theorem readNumber_digits {n : Nat} (fits : n < 2 ^ 64) {rest : List Char} (stops : Stops rest) (p : Position) :
    readNumber ⟨p, digits n ++ rest⟩ = .ok (.natural n, ⟨endOf p (digits n), rest⟩) := by
  obtain ⟨d, ds, split, digit⟩ := digits_cons n
  have unsigned : d ≠ '-' := ne_of_isDigit digit (by decide)
  have span : Cursor.span Char.isDigit ⟨p, digits n ++ rest⟩ = (digits n, ⟨endOf p (digits n), rest⟩) :=
    span_append (fun c => Nat.isDigit_of_mem_toDigits (by decide) (by decide)) (fun c head => (stops c head).1) p
  have accumulated : accumulate 0 (digits n) = (n, []) := by
    have value : Nat.ofDigitChars 10 (digits n) 0 = n := Nat.ofDigitChars_ten_toDigits
    rw [accumulate_of_lt (by rwa [value]), value]
  have magnitude : magnitude false ⟨p, digits n ++ rest⟩ = .ok (.natural n, ⟨endOf p (digits n), rest⟩) := by
    unfold Json.magnitude
    rw [span]
    dsimp only
    rcases Nat.eq_zero_or_pos n with rfl | positive
    · exact finishNumber_of_stops stops 0 _
    · have leading : (digits n).head? ≠ some '0' := head?_digits positive
      split
      · next none => exact absurd none Nat.toDigits_ne_nil
      · next zero => exact absurd (by rw [zero]; rfl) leading
      · next zero => exact absurd (by rw [zero]; rfl) leading
      · rw [accumulated]
        exact finishNumber_of_stops stops n _
  rw [readNumber, if_neg (by simp [split, unsigned]), magnitude]

end CodeAudit.Json
