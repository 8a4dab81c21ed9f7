import CodeAudit.Json.Codec
import CodeAudit.Proofs.Data.Result
import CodeAudit.Proofs.Json.Scan

/-! Forms of values that are read back as they were written. -/
namespace CodeAudit.Json

variable {α β : Type}

/-- No value starts with a blank or with the end of a list, and only one starts with an `n`. -/
theorem compact_cons (v : Json) :
    ∃ c t, v.compact = c :: t ∧ isSpace c = false ∧ c ≠ ']' ∧ (c = 'n' → v = .null) := by
  cases v with
  | null => exact ⟨'n', _, rfl, by decide, by decide, fun _ => rfl⟩
  | bool b =>
    cases b
    · exact ⟨'f', _, rfl, by decide, by decide, by simp⟩
    · exact ⟨'t', _, rfl, by decide, by decide, by simp⟩
  | number n =>
    obtain ⟨d, ds, split, digit⟩ := digits_cons n
    exact ⟨d, ds, split, isSpace_of_isDigit digit, ne_of_isDigit digit (by decide),
      fun n => absurd n (ne_of_isDigit digit (by decide))⟩
  | string s => exact ⟨'"', _, rfl, by decide, by decide, by simp⟩
  | array items => exact ⟨'[', _, by rw [compact]; rfl, by decide, by decide, by simp⟩
  | object members => exact ⟨'\x7b', _, by rw [compact]; rfl, by decide, by decide, by simp⟩

/-- What fits is read back as it was written, and all that is ever read fits. -/
structure Codec.Lawful (codec : Codec α) (fits : α → Prop) : Prop where
  reads {a : α} (fit : fits a) : Reads codec.read (codec.write a) a
  fits_of_read {c c' : Cursor} {a : α} (read : codec.read c = .ok (a, c')) : fits a

theorem naturalCodec_lawful {bits : Nat} (expected : String) (word : bits ≤ 64) :
    (naturalCodec bits expected).Lawful (· < 2 ^ bits) where
  reads {n} fit p rest stops := by
    have fits : n < 2 ^ 64 := Nat.lt_of_lt_of_le fit (Nat.pow_le_pow_right (by decide) word)
    have number := readNumber_digits fits stops p
    obtain ⟨d, ds, split, digit⟩ := digits_cons n
    rw [Codec.write, naturalCodec]
    dsimp only
    rw [compact, split, List.cons_append, skipBlanks_cons (isSpace_of_isDigit digit)]
    rw [split, List.cons_append] at number
    dsimp only
    rw [if_pos (by simp [digit]), number]
    exact if_pos fit
  fits_of_read {c c' n} read := by
    unfold naturalCodec at read
    dsimp only at read
    split at read
    · split at read
      · split at read
        · cases read
        · split at read
          · next fit =>
            cases read
            exact fit
          · cases read
        · cases read
        · cases read
      · cases read
    · cases read

theorem boolCodec_lawful : boolCodec.Lawful fun _ => True where
  reads {b} _ p rest _ := by
    cases b
    · exact congrArg (Except.map _) (word_append "alse".toList (p.after 'f') rest)
    · exact congrArg (Except.map _) (word_append "rue".toList (p.after 't') rest)
  fits_of_read _ := trivial

theorem readString_quoted (expected : String) (s : String) : Reads (readString expected) (quoted s.toList) s := by
  intro p rest _
  have read := readQuoted_quoted s.toList p rest
  unfold readString
  rw [quoted, List.cons_append, List.cons_append] at read ⊢
  rw [skipBlanks_cons (by decide)]
  dsimp only
  rw [if_pos List.head?_cons, read]
  simp [Except.map]

theorem stringCodec_lawful (expected : String) : (stringCodec expected).Lawful fun _ => True where
  reads _ := readString_quoted expected _
  fits_of_read _ := trivial

/-- What is never written as `null` can be left out. -/
theorem optionCodec_lawful {codec : Codec α} {fits : α → Prop} (lawful : codec.Lawful fits)
    (present : ∀ a, codec.encode a ≠ .null) : (optionCodec codec).Lawful fun o => ∀ a ∈ o, fits a where
  reads {o} fit p rest stops := by
    cases o with
    | none => exact congrArg (Except.map _) (word_append "ull".toList (p.after 'n') rest)
    | some a =>
      have read := lawful.reads (fit a rfl) p rest stops
      obtain ⟨c, t, split, solid, -, null⟩ := compact_cons (codec.encode a)
      have written : (optionCodec codec).write (some a) = codec.write a := rfl
      have other : c ≠ 'n' := fun n => present a (null n)
      rw [written]
      rw [Codec.write, split, List.cons_append] at read ⊢
      unfold optionCodec
      dsimp only
      rw [skipBlanks_cons solid, if_neg (by simp [other]), read]
      rfl
  fits_of_read {c c' o} read := by
    intro a here
    obtain rfl : o = some a := here
    unfold optionCodec at read
    dsimp only at read
    split at read
    · obtain ⟨_, -, same⟩ := map_eq_ok.mp read
      cases same
    · obtain ⟨_, found, same⟩ := map_eq_ok.mp read
      cases same
      exact lawful.fits_of_read found

/-- Names that stand for what they name are read back. -/
theorem nameCodec_lawful {names : List String} {name : α → String} {ofName? : String → Option α}
    (known : ∀ a, ofName? (name a) = some a) : (nameCodec names name ofName?).Lawful fun _ => True where
  reads {a} _ p rest stops := by
    have read := readString_quoted "variant identifier" (name a) p rest stops
    have written : (nameCodec names name ofName?).write a = quoted (name a).toList := rfl
    rw [written]
    rw [quoted, List.cons_append, List.cons_append] at read ⊢
    unfold nameCodec
    dsimp only
    rw [skipBlanks_cons (by decide)]
    dsimp only
    rw [readName, read]
    dsimp only
    rw [known]
    rfl
  fits_of_read _ := trivial

/-! ### Lists -/

/-- What stands between two items. -/
def comma (first : Bool) : List Char :=
  if first then [] else [',']

/-- Texts with commas between them. -/
def listed (first : Bool) : List (List Char) → List Char
  | [] => []
  | t :: ts => comma first ++ t ++ listed false ts

theorem compactItems_eq (items : List Json) : compactItems items = listed true (items.map compact) := by
  induction items with
  | nil => rfl
  | cons v rest ih =>
    cases rest with
    | nil => simp [compactItems, listed, comma]
    | cons w rest =>
      rw [compactItems, ih]
      simp [listed, comma]

theorem length_le_listed {ts : List (List Char)} (solid : ∀ t ∈ ts, t ≠ []) (first : Bool) :
    ts.length ≤ (listed first ts).length := by
  induction ts generalizing first with
  | nil => simp
  | cons t ts ih =>
    obtain ⟨head, tail⟩ := List.forall_mem_cons.mp solid
    have rest := ih tail false
    have positive := List.length_pos_iff.mpr head
    simp only [listed, List.length_cons, List.length_append]
    omega

theorem stops_listed {rest : List Char} (stops : Stops rest) (ts : List (List Char)) :
    Stops (listed false ts ++ rest) := by
  cases ts with
  | nil => exact stops
  | cons t ts => exact stops_cons.mpr (by decide)

/-- How the text of an item begins: with something else than a blank and the end of the list. -/
def StartsItem (t : List Char) : Prop :=
  ∃ c more, t = c :: more ∧ isSpace c = false ∧ c ≠ ']'

theorem startsItem_compact (v : Json) : StartsItem v.compact := by
  obtain ⟨c, t, split, solid, close, -⟩ := compact_cons v
  exact ⟨c, t, split, solid, close⟩

theorem nextItem?_item {gap t : List Char} (blank : Blank gap) (starts : StartsItem t) (first : Bool) (p : Position)
    (more : List Char) : nextItem? first ⟨p, comma first ++ (gap ++ (t ++ more))⟩ =
      .ok (some ⟨endOf p (comma first ++ gap), t ++ more⟩) := by
  obtain ⟨c, t, rfl, solid, close⟩ := starts
  rw [List.cons_append]
  cases first with
  | true =>
    unfold nextItem?
    simp [comma, skipBlanks_append blank solid]
  | false =>
    unfold nextItem?
    simp only [comma, Bool.false_eq_true, ↓reduceIte, List.cons_append, List.nil_append, Cursor.next_cons,
      skipBlanks_append blank solid, skipBlanks_cons (show isSpace ',' = false by decide), endOf_cons]
    split
    · next ended => cases ended
    · next closed => exact absurd (List.cons.inj closed).1 (by decide)
    · next x tail _ here =>
      obtain ⟨rfl, rfl⟩ := List.cons.inj here
      rw [if_pos rfl]
      split
      · next ended => cases ended
      · next closed => exact absurd (List.cons.inj closed).1 close
      · rfl

theorem nextItem?_end {gap : List Char} (blank : Blank gap) (first : Bool) (p : Position) (more : List Char) :
    nextItem? first ⟨p, gap ++ ']' :: more⟩ = .ok none := by
  unfold nextItem?
  rw [skipBlanks_append blank (by decide)]
  rfl

theorem closeList_end {gap : List Char} (blank : Blank gap) (p : Position) (more : List Char) :
    closeList ⟨p, gap ++ ']' :: more⟩ = .ok ⟨(endOf p gap).after ']', more⟩ := by
  unfold closeList
  rw [skipBlanks_append blank (by decide)]
  rfl

/-- No number goes on with a blank. -/
theorem stops_append {gap rest : List Char} (blank : Blank gap) (stops : Stops rest) : Stops (gap ++ rest) := by
  cases gap with
  | nil => exact stops
  | cons c gap =>
    have space : isSpace c = true := blank c List.mem_cons_self
    refine stops_cons.mpr ?_
    simp only [isSpace, Bool.or_eq_true, decide_eq_true_eq] at space
    rcases space with ((rfl | rfl) | rfl) | rfl <;> decide

/-- Items are read back, from the first one or behind others, with one gap in front of each and another one behind
them all. -/
theorem readItems_spaced {read : Reader α} (write : α → List Char) {gap last : List Char} (blank : Blank gap)
    (blank' : Blank last) {as : List α} (starts : ∀ a ∈ as, StartsItem (write a))
    (reads : ∀ a ∈ as, Reads read (write a) a) {fuel : Nat} (enough : as.length < fuel) (first : Bool) (p : Position)
    (more : List Char) :
    readItems read fuel first ⟨p, listed first (as.map (gap ++ write ·)) ++ (last ++ ']' :: more)⟩ =
      .ok (as, ⟨endOf p (listed first (as.map (gap ++ write ·))), last ++ ']' :: more⟩) := by
  induction as generalizing fuel first p with
  | nil =>
    obtain ⟨fuel, rfl⟩ := Nat.exists_eq_add_one_of_ne_zero (Nat.ne_zero_of_lt enough)
    rw [List.map_nil, listed, List.nil_append, readItems, nextItem?_end blank']
    rfl
  | cons a as ih =>
    obtain ⟨fuel, rfl⟩ := Nat.exists_eq_add_one_of_ne_zero (Nat.ne_zero_of_lt enough)
    obtain ⟨starts, startAll⟩ := List.forall_mem_cons.mp starts
    obtain ⟨reads, readAll⟩ := List.forall_mem_cons.mp reads
    let others := listed false (as.map (gap ++ write ·)) ++ (last ++ ']' :: more)
    have stops : Stops others := stops_listed (stops_append blank' (stops_cons.mpr (by decide))) _
    have item := nextItem?_item blank starts first p others
    have read' := reads (endOf p (comma first ++ gap)) others stops
    have fewer : as.length < fuel := Nat.lt_of_succ_lt_succ enough
    have rest := ih startAll readAll fewer false (endOf (endOf p (comma first ++ gap)) (write a))
    rw [List.map_cons, listed, List.append_assoc, List.append_assoc, List.append_assoc]
    refine bind_eq_ok.mpr ⟨_, item, bind_eq_ok.mpr ⟨_, read', bind_eq_ok.mpr ⟨_, rest, ?_⟩⟩⟩
    simp [pure, Except.pure]

variable {codec : Codec α} {fits : α → Prop}

theorem fits_of_readItems (lawful : codec.Lawful fits) {fuel : Nat} {first : Bool} {c c' : Cursor} {as : List α}
    (read : readItems codec.read fuel first c = .ok (as, c')) : ∀ a ∈ as, fits a := by
  induction fuel generalizing first c c' as with
  | zero => cases read
  | succ fuel ih =>
    obtain ⟨next, -, read⟩ := bind_eq_ok.mp read
    cases next with
    | none =>
      cases read
      simp
    | some c =>
      obtain ⟨⟨a, c⟩, item, read⟩ := bind_eq_ok.mp read
      obtain ⟨⟨as', c⟩, rest, read⟩ := bind_eq_ok.mp read
      cases read
      exact List.forall_mem_cons.mpr ⟨lawful.fits_of_read item, ih rest⟩

/-- A collection is read back from the list of its members. -/
theorem listCodec_lawful {toList : β → List α} {ofList : List α → β} (lawful : codec.Lawful fits)
    (same : ∀ b, ofList (toList b) = b) (few : ∀ as, ∀ a ∈ toList (ofList as), a ∈ as) :
    (listCodec codec toList ofList).Lawful fun b => ∀ a ∈ toList b, fits a where
  reads {b} fit p rest stops := by
    let items := listed true ((toList b).map codec.write)
    have written : (listCodec codec toList ofList).write b = '[' :: (items ++ [']']) := by
      rw [Codec.write, listCodec, compact, compactItems_eq, List.map_map]
      rfl
    have solid : ∀ t ∈ (toList b).map codec.write, t ≠ [] := by
      intro t member
      obtain ⟨a, -, rfl⟩ := List.mem_map.mp member
      obtain ⟨c, t, split, -⟩ := compact_cons (codec.encode a)
      simp [Codec.write, split]
    have enough : (toList b).length < ('[' :: (items ++ (']' :: rest))).length + 1 := by
      have short : (toList b).length ≤ items.length := by simpa using length_le_listed solid true
      simp only [List.length_cons, List.length_append]
      omega
    have read : readItems codec.read _ true ⟨p.after '[', items ++ ']' :: rest⟩ =
        .ok (toList b, ⟨endOf (p.after '[') items, ']' :: rest⟩) :=
      readItems_spaced codec.write blank_nil blank_nil (fun a _ => startsItem_compact (codec.encode a))
        (fun a member => lawful.reads (fit a member)) enough true (p.after '[') rest
    have closed : closeList ⟨endOf (p.after '[') items, ']' :: rest⟩ = .ok ⟨_, rest⟩ :=
      closeList_end blank_nil _ rest
    rw [written, List.cons_append, List.append_assoc, List.singleton_append]
    unfold listCodec
    dsimp only
    rw [skipBlanks_cons (by decide)]
    dsimp only
    rw [if_pos List.head?_cons, Cursor.next_cons]
    simp only [bind, Except.bind, read, closed]
    simp [pure, Except.pure, same, items]
  fits_of_read {c c' b} read := by
    unfold listCodec at read
    dsimp only at read
    split at read
    · obtain ⟨⟨as, c⟩, items, read⟩ := bind_eq_ok.mp read
      obtain ⟨c, -, read⟩ := bind_eq_ok.mp read
      cases read
      exact fun a member => fits_of_readItems lawful items a (few as a member)
    · cases read

end CodeAudit.Json
