import CodeAudit.Proofs.Json.Record

/-! Values of any kind that are read back from their texts with one item on a line. -/
namespace CodeAudit.Json

/-- A whole number of any size. -/
def readNatural : Reader Nat := fun c =>
  let (ds, behind) := c.span Char.isDigit
  match ds with
  | [] => .error (.here c endInValue expectedValue)
  | '0' :: _ :: _ => .error ⟨invalidNumber, c.next.byteOn⟩
  | ds => .ok (Nat.ofDigitChars 10 ds 0, behind)

/-- The members of an object, up to its end. Every member takes a character. -/
def readFields (read : Reader Json) : Nat → Bool → Reader (List (String × Json))
  | 0, _, c => .error ⟨endInObject, c.toPosition⟩
  | fuel + 1, first, c => do
    match ← Members.nextKey? first c with
    | none => return ([], skipBlanks c)
    | some (key, c) =>
      let c ← skipColon c
      let (v, c) ← read c
      let (members, c) ← readFields read fuel false c
      return ((key, v) :: members, c)

/-- A value, in which no more than the given number of values lie within each other. -/
def readValue : Nat → Reader Json
  | 0, c => .error ⟨endInValue, c.toPosition⟩
  | depth + 1, c =>
    let c := skipBlanks c
    match c.rest with
    | 'n' :: _ => (word "ull".toList c.next).map (.null, ·)
    | 't' :: _ => (word "rue".toList c.next).map (.bool true, ·)
    | 'f' :: _ => (word "alse".toList c.next).map (.bool false, ·)
    | '"' :: _ => (readQuoted c.next).map fun (s, c) => (.string (.ofList s), c)
    | '[' :: _ => do
      let (items, c) ← readItems (readValue depth) (c.rest.length + 1) true c.next
      let c ← closeList c
      return (.array items, c)
    | '\x7b' :: _ => do
      let (members, c) ← readFields (readValue depth) (c.rest.length + 1) true c.next
      return (.object members, c.next)
    | _ => (readNatural c).map fun (n, c) => (.number n, c)

theorem readValue_quote (depth : Nat) (p : Position) (t : List Char) :
    readValue (depth + 1) ⟨p, '"' :: t⟩ =
      (readQuoted ⟨p.after '"', t⟩).map fun (s, c) => (.string (.ofList s), c) := rfl

theorem readValue_bracket (depth : Nat) (p : Position) (t : List Char) :
    readValue (depth + 1) ⟨p, '[' :: t⟩ = (do
      let (items, c) ← readItems (readValue depth) (t.length + 2) true ⟨p.after '[', t⟩
      let c ← closeList c
      return (.array items, c)) := rfl

theorem readValue_brace (depth : Nat) (p : Position) (t : List Char) :
    readValue (depth + 1) ⟨p, '\x7b' :: t⟩ = (do
      let (members, c) ← readFields (readValue depth) (t.length + 2) true ⟨p.after '\x7b', t⟩
      return (.object members, c.next)) := rfl

/-- The value that a text writes. Behind it only blanks may stand. -/
def ofText? (text : List Char) : Option Json :=
  match readValue text.length (.start text) with
  | .error _ => none
  | .ok (v, c) => if (skipBlanks c).atEnd then some v else none

/-! ### Parts of a value -/

def member? (key : String) : Json → Option Json
  | object members => members.lookup key
  | _ => none

def number? : Json → Option Nat
  | number n => some n
  | _ => none

def string? : Json → Option String
  | string s => some s
  | _ => none

def array? : Json → Option (List Json)
  | array items => some items
  | _ => none

/-! ### Texts with one item on a line -/

theorem blank_newLine (level : Nat) : Blank (newLine level) := by
  intro c member
  obtain rfl | member := List.mem_cons.mp member
  · decide
  · obtain ⟨-, rfl⟩ := List.mem_replicate.mp member
    decide

/-- A member as it is written on a line of its own. -/
def fieldText (level : Nat) (m : String × Json) : List Char :=
  quoted m.1.toList ++ ':' :: ' ' :: m.2.pretty level

theorem prettyItems_eq (level : Nat) (items : List Json) :
    prettyItems level items = listed true (items.map (newLine level ++ pretty level ·)) := by
  induction items with
  | nil => rfl
  | cons v rest ih =>
    cases rest with
    | nil => simp [prettyItems, listed, comma]
    | cons w rest =>
      rw [prettyItems, ih]
      simp [listed, comma]

theorem prettyMembers_eq (level : Nat) (members : List (String × Json)) :
    prettyMembers level members = listed true (members.map (newLine level ++ fieldText level ·)) := by
  induction members with
  | nil => rfl
  | cons m rest ih =>
    obtain ⟨k, v⟩ := m
    cases rest with
    | nil => simp [prettyMembers, listed, comma, fieldText]
    | cons m rest =>
      rw [prettyMembers, ih]
      simp [listed, comma, fieldText]

/-- The items of an array with their gaps; an empty array has none. -/
theorem pretty_array (level : Nat) (items : List Json) : ∃ last, Blank last ∧ (Json.array items).pretty level =
    '[' :: (listed true (items.map (newLine (level + 1) ++ pretty (level + 1) ·)) ++ (last ++ [']'])) := by
  cases items with
  | nil => exact ⟨[], blank_nil, by rw [pretty]; rfl⟩
  | cons v rest =>
    refine ⟨newLine level, blank_newLine level, ?_⟩
    rw [pretty, prettyItems_eq, List.cons_append, List.cons_append, List.append_assoc]

theorem pretty_object (level : Nat) (members : List (String × Json)) :
    ∃ last, Blank last ∧ (Json.object members).pretty level =
      '\x7b' :: (listed true (members.map (newLine (level + 1) ++ fieldText (level + 1) ·)) ++
        (last ++ ['\x7d'])) := by
  cases members with
  | nil => exact ⟨[], blank_nil, by rw [pretty]; rfl⟩
  | cons m rest =>
    refine ⟨newLine level, blank_newLine level, ?_⟩
    rw [pretty, prettyMembers_eq, List.cons_append, List.cons_append, List.append_assoc]

theorem startsItem_pretty (level : Nat) (v : Json) : StartsItem (v.pretty level) := by
  cases v with
  | null => exact ⟨'n', _, by rw [pretty]; rfl, by decide, by decide⟩
  | bool b =>
    cases b
    · exact ⟨'f', _, by rw [pretty]; rfl, by decide, by decide⟩
    · exact ⟨'t', _, by rw [pretty]; rfl, by decide, by decide⟩
  | number n =>
    obtain ⟨d, ds, split, digit⟩ := digits_cons n
    exact ⟨d, ds, by rw [pretty, split], isSpace_of_isDigit digit, ne_of_isDigit digit (by decide)⟩
  | string s => exact ⟨'"', _, by rw [pretty]; rfl, by decide, by decide⟩
  | array items =>
    obtain ⟨last, -, text⟩ := pretty_array level items
    exact ⟨'[', _, text, by decide, by decide⟩
  | object members =>
    obtain ⟨last, -, text⟩ := pretty_object level members
    exact ⟨'\x7b', _, text, by decide, by decide⟩

theorem length_of_mem_listed {t : List Char} {ts : List (List Char)} (member : t ∈ ts) (first : Bool) :
    t.length ≤ (listed first ts).length := by
  induction ts generalizing first with
  | nil => cases member
  | cons s ts ih =>
    simp only [listed, List.length_append]
    obtain rfl | member := List.mem_cons.mp member
    · omega
    · have later := ih member false
      omega

/-- There is room for as many texts as are listed on lines of their own, and for each of them. -/
theorem length_listed (level : Nat) {α : Type} (write : α → List Char) (as : List α) :
    let t := listed true (as.map (newLine level ++ write ·))
    as.length ≤ t.length ∧ ∀ a ∈ as, (write a).length ≤ t.length := by
  have solid : ∀ t ∈ as.map (newLine level ++ write ·), t ≠ [] := by simp [newLine]
  refine ⟨by simpa using length_le_listed solid true, fun a member => ?_⟩
  have listed : newLine level ++ write a ∈ as.map (newLine level ++ write ·) := List.mem_map.mpr ⟨a, member, rfl⟩
  have inside := length_of_mem_listed listed true
  rw [List.length_append] at inside
  omega

/-! ### Reading them back -/

theorem readNatural_digits (n : Nat) : Reads readNatural (digits n) n := by
  intro p rest stops
  have span : Cursor.span Char.isDigit ⟨p, digits n ++ rest⟩ = (digits n, ⟨endOf p (digits n), rest⟩) :=
    span_append (fun c => Nat.isDigit_of_mem_toDigits (by decide) (by decide)) (fun c head => (stops c head).1) p
  have value : Nat.ofDigitChars 10 (digits n) 0 = n := Nat.ofDigitChars_ten_toDigits
  unfold readNatural
  rw [span]
  dsimp only
  split
  · next none => exact absurd none Nat.toDigits_ne_nil
  · next zero =>
    rcases Nat.eq_zero_or_pos n with rfl | positive
    · cases zero
    · exact absurd (by rw [zero]; rfl) (head?_digits positive)
  · rw [value]

/-- A value may stand behind a blank. -/
theorem readValue_blank {t : List Char} (starts : StartsItem t) {depth : Nat} {v : Json}
    (reads : Reads (readValue depth) t v) : Reads (readValue depth) (' ' :: t) v := by
  intro p rest stops
  have behind := reads (p.after ' ') rest stops
  obtain ⟨c, more, rfl, solid, -⟩ := starts
  cases depth with
  | zero => cases behind
  | succ depth =>
    have skipped : skipBlanks ⟨p, ' ' :: c :: (more ++ rest)⟩ = ⟨p.after ' ', c :: (more ++ rest)⟩ :=
      skipBlanks_append (show Blank [' '] by simp [Blank, isSpace]) solid p _
    rw [List.cons_append, readValue, skipBlanks_cons solid] at behind
    rw [List.cons_append, List.cons_append, readValue, skipped]
    exact behind

/-- Members are read back, from the first one or behind others. -/
theorem readFields_listed {read : Reader Json} {level : Nat} {last : List Char} (blank : Blank last)
    {members : List (String × Json)} (reads : ∀ m ∈ members, Reads read (' ' :: m.2.pretty level) m.2) {fuel : Nat}
    (enough : members.length < fuel) (first : Bool) (p : Position) (more : List Char) :
    let t := listed first (members.map (newLine level ++ fieldText level ·))
    readFields read fuel first ⟨p, t ++ (last ++ '\x7d' :: more)⟩ =
      .ok (members, ⟨endOf (endOf p t) last, '\x7d' :: more⟩) := by
  dsimp only
  induction members generalizing fuel first p with
  | nil =>
    obtain ⟨fuel, rfl⟩ := Nat.exists_eq_add_one_of_ne_zero (Nat.ne_zero_of_lt enough)
    rw [List.map_nil, listed, List.nil_append]
    refine bind_eq_ok.mpr ⟨none, Members.nextKey?_end blank first p more, ?_⟩
    dsimp only
    rw [skipBlanks_append blank (by decide)]
    rfl
  | cons m members ih =>
    obtain ⟨fuel, rfl⟩ := Nat.exists_eq_add_one_of_ne_zero (Nat.ne_zero_of_lt enough)
    obtain ⟨read_m, read_members⟩ := List.forall_mem_cons.mp reads
    let others := listed false (members.map (newLine level ++ fieldText level ·)) ++ (last ++ '\x7d' :: more)
    have stops : Stops others := stops_listed (stops_append blank (stops_cons.mpr (by decide))) _
    have key := Members.nextKey?_key (blank_newLine level) first m.1 p (':' :: ' ' :: (m.2.pretty level ++ others))
    have colon (q : Position) (t : List Char) : skipColon ⟨q, ':' :: t⟩ = .ok ⟨q.after ':', t⟩ := by
      unfold skipColon
      rw [skipBlanks_cons (by decide)]
      exact if_pos rfl
    have fewer : members.length < fuel := Nat.lt_of_succ_lt_succ enough
    rw [List.map_cons, listed, List.append_assoc, List.append_assoc, List.append_assoc, fieldText, List.append_assoc]
    refine bind_eq_ok.mpr ⟨_, key, bind_eq_ok.mpr ⟨_, colon _ _, bind_eq_ok.mpr ⟨_, read_m _ _ stops, ?_⟩⟩⟩
    refine bind_eq_ok.mpr ⟨_, ih read_members fewer false _, ?_⟩
    simp [pure, Except.pure]

theorem readValue_number (n depth : Nat) : Reads (readValue (depth + 1)) (digits n) (.number n) := by
  intro p rest stops
  have number := readNatural_digits n p rest stops
  obtain ⟨d, ds, split, digit⟩ := digits_cons n
  rw [split, List.cons_append] at number ⊢
  rw [readValue, skipBlanks_cons (isSpace_of_isDigit digit)]
  dsimp only
  split
  case h_7 => rw [number]; rfl
  all_goals
    next letter =>
      obtain ⟨rfl, -⟩ := List.cons.inj letter
      exact absurd digit (by decide)

theorem readValue_string (s : String) (depth : Nat) :
    Reads (readValue (depth + 1)) (quoted s.toList) (.string s) := by
  intro p rest _
  have read := readQuoted_quoted s.toList p rest
  rw [quoted, List.cons_append, List.cons_append, Cursor.next_cons] at read
  rw [quoted, List.cons_append, List.cons_append, readValue_quote, read]
  simp [Except.map]

theorem readValue_array {depth level : Nat} {items : List Json}
    (reads : ∀ v ∈ items, Reads (readValue depth) (v.pretty (level + 1)) v) :
    Reads (readValue (depth + 1)) ((array items).pretty level) (array items) := by
  intro p rest _
  obtain ⟨last, blank, text⟩ := pretty_array level items
  let t := listed true (items.map (newLine (level + 1) ++ pretty (level + 1) ·))
  have enough : items.length < ('[' :: (t ++ (last ++ ']' :: rest))).length + 1 := by
    have room := (length_listed (level + 1) (pretty (level + 1)) items).1
    simp only [t, List.length_cons, List.length_append]
    omega
  have read := readItems_spaced (pretty (level + 1)) (blank_newLine (level + 1)) blank
    (fun v _ => startsItem_pretty (level + 1) v) reads enough true (p.after '[') rest
  have closed := closeList_end blank (endOf (p.after '[') t) rest
  rw [text, List.cons_append, List.append_assoc, List.append_assoc, List.singleton_append, readValue_bracket]
  refine bind_eq_ok.mpr ⟨_, read, bind_eq_ok.mpr ⟨_, closed, ?_⟩⟩
  simp [pure, Except.pure, t]

theorem readValue_object {depth level : Nat} {members : List (String × Json)}
    (reads : ∀ m ∈ members, Reads (readValue depth) (m.2.pretty (level + 1)) m.2) :
    Reads (readValue (depth + 1)) ((object members).pretty level) (object members) := by
  intro p rest _
  obtain ⟨last, blank, text⟩ := pretty_object level members
  let t := listed true (members.map (newLine (level + 1) ++ fieldText (level + 1) ·))
  have enough : members.length < ('\x7b' :: (t ++ (last ++ '\x7d' :: rest))).length + 1 := by
    have room := (length_listed (level + 1) (fieldText (level + 1)) members).1
    simp only [t, List.length_cons, List.length_append]
    omega
  have read := readFields_listed blank
    (fun m member => readValue_blank (startsItem_pretty (level + 1) m.2) (reads m member)) enough true
    (p.after '\x7b') rest
  rw [text, List.cons_append, List.append_assoc, List.append_assoc, List.singleton_append, readValue_brace]
  refine bind_eq_ok.mpr ⟨_, read, ?_⟩
  simp [pure, Except.pure]

/-- Every value is read back from its text, at whatever level it stands. -/
theorem readValue_pretty {depth level : Nat} {v : Json} (enough : (v.pretty level).length ≤ depth) :
    Reads (readValue depth) (v.pretty level) v := by
  -- What stands within brackets has a shorter text than what stands around it.
  induction depth generalizing level v with
  | zero =>
    obtain ⟨c, t, text, -⟩ := startsItem_pretty level v
    simp [text] at enough
  | succ depth ih =>
    cases v with
    | null =>
      rw [pretty]
      exact fun p rest _ => congrArg (Except.map _) (word_append "ull".toList (p.after 'n') rest)
    | bool b =>
      rw [pretty]
      cases b
      · exact fun p rest _ => congrArg (Except.map _) (word_append "alse".toList (p.after 'f') rest)
      · exact fun p rest _ => congrArg (Except.map _) (word_append "rue".toList (p.after 't') rest)
    | number n =>
      rw [pretty]
      exact readValue_number n depth
    | string s =>
      rw [pretty]
      exact readValue_string s depth
    | array items =>
      refine readValue_array fun v member => ih ?_
      obtain ⟨last, -, text⟩ := pretty_array level items
      have inside := (length_listed (level + 1) (pretty (level + 1)) items).2 v member
      simp only [text, List.length_cons, List.length_append] at enough
      omega
    | object members =>
      refine readValue_object fun m member => ih ?_
      obtain ⟨last, -, text⟩ := pretty_object level members
      have inside := (length_listed (level + 1) (fieldText (level + 1)) members).2 m member
      simp only [text, fieldText, List.length_cons, List.length_append] at enough inside
      omega

/-- A value is what its text says, with a line end behind it. -/
theorem ofText?_pretty (v : Json) : ofText? (v.pretty 0 ++ ['\n']) = some v := by
  have enough : (v.pretty 0).length ≤ (v.pretty 0 ++ ['\n']).length := by simp
  have read := readValue_pretty enough {} ['\n'] (stops_cons.mpr (by decide))
  rw [ofText?, Cursor.start, read]
  exact if_pos rfl

end CodeAudit.Json
