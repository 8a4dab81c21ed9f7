import CodeAudit.Proofs.Toml.Writes

/-! The statements of a text, line by line and before anything is known about the tables that they make. The table that
a text writes is the one that its statements make; where they make none, or where a line is no statement, the text is
refused. -/
namespace CodeAudit.Toml

/-! ### What is read when nothing stops the reading -/

namespace Reader

variable {α β : Type} {r : Reader α} {c c' : Cursor} {a : α}

theorem hard_eq_ok : hard r c = .ok (a, c') ↔ r c = .ok (a, c') :=
  mapError_eq_ok

theorem labelled_eq_ok {name : String} : labelled name r c = .ok (a, c') ↔ r c = .ok (a, c') :=
  mapError_eq_ok

theorem isHard_of_hard {e : Stop} (stopped : hard r c = .error e) : e.hard = true := by
  rw [hard] at stopped
  cases given : r c with
  | ok =>
    rw [given] at stopped
    contradiction
  | error e' =>
    rw [given] at stopped
    obtain rfl := Except.error.inj stopped
    rfl

theorem checked_eq_ok {check : α → Except Problem β} {b : β} :
    checked r check c = .ok (b, c') ↔ ∃ a, r c = .ok (a, c') ∧ check a = .ok b := by
  rw [checked]
  cases r c with
  | error => simp
  | ok p =>
    obtain ⟨a, rest⟩ := p
    cases done : check a with
    | error =>
      simp only [done, reduceCtorEq, Except.ok.injEq, Prod.mk.injEq, false_iff]
      rintro ⟨a', ⟨rfl, -⟩, done'⟩
      rw [done] at done'
      contradiction
    | ok b' =>
      simp only [done, Except.ok.injEq, Prod.mk.injEq]
      constructor
      · rintro ⟨rfl, rfl⟩
        exact ⟨a, ⟨rfl, rfl⟩, done⟩
      · rintro ⟨a', ⟨rfl, rfl⟩, done'⟩
        exact ⟨Except.ok.inj (done.symm.trans done'), rfl⟩

theorem optional_eq_some : optional r c = .ok (some a, c') ↔ r c = .ok (a, c') := by
  rw [optional]
  cases given : r c with
  | ok p => simp [Prod.ext_iff]
  | error e => cases hardness : e.hard <;> simp [hardness]

theorem optional_of_error {e : Stop} (stopped : r c = .error e) :
    optional r c = if e.hard then .error e else .ok (none, c) := by
  rw [optional, stopped]

/-- Of parts side by side each was read somewhere. -/
theorem mem_of_repeated {as : List α} (given : repeated r c = .ok (as, c')) (member : a ∈ as) :
    ∃ b b', r b = .ok (a, b') := by
  rw [repeated] at given
  generalize c.rest.length + 1 = fuel at given
  induction fuel generalizing c as with
  | zero =>
    obtain ⟨rfl, rfl⟩ := Prod.mk.inj (Except.ok.inj given)
    contradiction
  | succ fuel ih =>
    rw [repeated.go] at given
    obtain ⟨⟨first, b⟩, here, given⟩ := bind_eq_ok.mp given
    cases first with
    | none =>
      obtain ⟨rfl, rfl⟩ := Prod.mk.inj (Except.ok.inj given)
      contradiction
    | some x =>
      obtain ⟨⟨xs, b'⟩, later, given⟩ := bind_eq_ok.mp given
      obtain ⟨rfl, rfl⟩ := Prod.mk.inj (Except.ok.inj given)
      rcases List.mem_cons.mp member with rfl | member
      · exact ⟨c, b, optional_eq_some.mp here⟩
      · exact ih member later

theorem mem_of_separated {as : List α} {x : Char} (given : separated r x c = .ok (as, c')) (member : a ∈ as) :
    ∃ b b', r b = .ok (a, b') := by
  obtain ⟨⟨first, b⟩, here, given⟩ := bind_eq_ok.mp given
  obtain ⟨⟨others, b'⟩, later, given⟩ := bind_eq_ok.mp given
  obtain ⟨rfl, rfl⟩ := Prod.mk.inj (Except.ok.inj given)
  rcases List.mem_cons.mp member with rfl | member
  · exact ⟨c, b, here⟩
  · obtain ⟨b, b', read⟩ := mem_of_repeated later member
    obtain ⟨⟨y, d⟩, -, read⟩ := bind_eq_ok.mp read
    exact ⟨d, b', read⟩

theorem separated_ne_nil {x : Char} : separated r x c ≠ .ok ([], c') := by
  intro given
  obtain ⟨⟨first, b⟩, -, given⟩ := bind_eq_ok.mp given
  obtain ⟨⟨others, b'⟩, -, given⟩ := bind_eq_ok.mp given
  exact List.cons_ne_nil _ _ (Prod.mk.inj (Except.ok.inj given)).1

end Reader

open Reader

variable {c c' : Cursor} {α : Type} {read : Reader α} {finish : Reader Unit} {ks : List Key}

theorem key_ne_nil (given : key c = .ok (ks, c')) : ks ≠ [] := by
  obtain ⟨ks', read, accepted⟩ := checked_eq_ok.mp given
  split at accepted
  · contradiction
  · obtain rfl := Except.ok.inj accepted
    rintro rfl
    exact separated_ne_nil (labelled_eq_ok.mp read)

theorem keyAndValue_eq_ok {a : α} : keyAndValue read finish c = .ok ((ks, a), c') ↔
    ∃ b d bs d' b', key c = .ok (ks, b) ∧ equals b = .ok ((), d) ∧ blanks d = .ok (bs, d') ∧ read d' = .ok (a, b') ∧
      finish b' = .ok ((), c') := by
  constructor
  · intro given
    obtain ⟨⟨ks', b⟩, first, given⟩ := bind_eq_ok.mp given
    obtain ⟨⟨a', c''⟩, inner, given⟩ := bind_eq_ok.mp given
    obtain ⟨⟨rfl, rfl⟩, rfl⟩ : (ks' = ks ∧ a' = a) ∧ c'' = c' := by simpa using Except.ok.inj given
    obtain ⟨⟨⟨⟩, d⟩, equal, inner⟩ := bind_eq_ok.mp (hard_eq_ok.mp inner)
    obtain ⟨⟨bs, d'⟩, blank, inner⟩ := bind_eq_ok.mp inner
    obtain ⟨⟨a'', b'⟩, value, inner⟩ := bind_eq_ok.mp inner
    obtain ⟨⟨⟨⟩, c'⟩, last, inner⟩ := bind_eq_ok.mp inner
    obtain ⟨rfl, rfl⟩ := Prod.mk.inj (Except.ok.inj inner)
    exact ⟨b, d, bs, d', b', first, equal, blank, value, last⟩
  · rintro ⟨b, d, bs, d', b', first, equal, blank, value, last⟩
    refine bind_eq_ok.mpr ⟨(ks, b), first, bind_eq_ok.mpr ⟨(a, c'), hard_eq_ok.mpr ?_, rfl⟩⟩
    refine bind_eq_ok.mpr ⟨_, equal, bind_eq_ok.mpr ⟨_, blank, bind_eq_ok.mpr ⟨_, value, ?_⟩⟩⟩
    exact bind_eq_ok.mpr ⟨_, last, rfl⟩

/-- Where a value is made out of what another reader reads, so is an entry. -/
theorem keyAndValue_of_made {β : Type} {read' : Reader β} {make : β → Except Problem α}
    (same : ∀ c a c', read c = .ok (a, c') ↔ ∃ b, read' c = .ok (b, c') ∧ make b = .ok a) {a : α} :
    keyAndValue read finish c = .ok ((ks, a), c') ↔
      ∃ b, keyAndValue read' finish c = .ok ((ks, b), c') ∧ make b = .ok a := by
  simp only [keyAndValue_eq_ok, same]
  constructor
  · rintro ⟨b, d, bs, d', b', first, equal, blank, ⟨x, value, made⟩, last⟩
    exact ⟨x, ⟨b, d, bs, d', b', first, equal, blank, value, last⟩, made⟩
  · rintro ⟨x, ⟨b, d, bs, d', b', first, equal, blank, value, last⟩, made⟩
    exact ⟨b, d, bs, d', b', first, equal, blank, ⟨x, value, made⟩, last⟩

/-- The entries of an inline table, with something in each key. -/
theorem mem_of_inlineEntries {value : Reader Item} {es : List (List Key × Item)} {e : List Key × Item}
    (given : inlineEntries value c = .ok (es, c')) (member : e ∈ es) :
    e.1 ≠ [] ∧ ∃ b b', value b = .ok (e.2, b') := by
  obtain ⟨⟨found, b⟩, read, given⟩ := bind_eq_ok.mp given
  obtain ⟨⟨bs, b'⟩, -, given⟩ := bind_eq_ok.mp given
  obtain ⟨rfl, rfl⟩ := Prod.mk.inj (Except.ok.inj given)
  cases found with
  | none => contradiction
  | some es =>
    obtain ⟨ks, i⟩ := e
    obtain ⟨d, d', entry⟩ := mem_of_separated (optional_eq_some.mp read) member
    obtain ⟨b, -, -, d', b', first, -, -, item, -⟩ := keyAndValue_eq_ok.mp entry
    exact ⟨key_ne_nil first, d', b', item⟩

theorem inlineTable_eq_ok {value : Reader Item} {i : Item} : inlineTable value c = .ok (i, c') ↔
    ∃ b es b' d t, char '\x7b' c = .ok (b, d) ∧ inlineEntries value d = .ok (es, b') ∧
      insertAll { info := { inline := true } } es = .ok t ∧ inlineTableEnd b' = .ok ((), c') ∧
      i = .table { t.info with span := some ⟨c.offset, c'.offset⟩ } t.entries := by
  constructor
  · intro given
    obtain ⟨⟨b, d⟩, opening, given⟩ := bind_eq_ok.mp given
    obtain ⟨⟨t, b'⟩, inner, given⟩ := bind_eq_ok.mp given
    obtain ⟨⟨⟨⟩, b''⟩, closing, given⟩ := bind_eq_ok.mp given
    obtain ⟨rfl, rfl⟩ := Prod.mk.inj (Except.ok.inj given)
    obtain ⟨es, entries, made⟩ := checked_eq_ok.mp (hard_eq_ok.mp inner)
    exact ⟨b, es, b', d, t, opening, entries, made, hard_eq_ok.mp closing, rfl⟩
  · rintro ⟨b, es, b', d, t, opening, entries, made, closing, rfl⟩
    exact bind_eq_ok.mpr ⟨_, opening, bind_eq_ok.mpr ⟨(t, b'), hard_eq_ok.mpr (checked_eq_ok.mpr ⟨es, entries, made⟩),
      bind_eq_ok.mpr ⟨_, hard_eq_ok.mpr closing, rfl⟩⟩⟩

/-- Of an inline table the entries are read with tidy values if there are only such values. -/
theorem tidy_of_inlineEntries {value : Reader Item} {es : List (List Key × Item)}
    (tidy : ∀ c i c', value c = .ok (i, c') → i.Tidy) (given : inlineEntries value c = .ok (es, c')) :
    ∀ e ∈ es, e.1 ≠ [] ∧ e.2.Tidy := by
  intro e member
  obtain ⟨keyed, b, b', read⟩ := mem_of_inlineEntries given member
  exact ⟨keyed, tidy b e.2 b' read⟩

theorem tidy_of_scalar {s : Except Stop (Scalar × Cursor)} {start : Nat} {i : Item}
    (given : s.map (fun (s, r) => (Item.scalar s ⟨start, r.offset⟩, r)) = .ok (i, c')) : i.Tidy := by
  obtain ⟨⟨s, r⟩, -, same⟩ := map_eq_ok.mp given
  obtain ⟨rfl, rfl⟩ := Prod.mk.inj same
  exact Item.tidy_of_bare rfl nofun

theorem tidy_of_array {value : Reader Item} {i : Item} (given : array value c = .ok (i, c')) : i.Tidy := by
  obtain ⟨⟨b, d⟩, -, given⟩ := bind_eq_ok.mp given
  obtain ⟨⟨items, d'⟩, -, given⟩ := bind_eq_ok.mp given
  obtain ⟨⟨⟨⟩, d''⟩, -, given⟩ := bind_eq_ok.mp given
  obtain ⟨rfl, rfl⟩ := Prod.mk.inj (Except.ok.inj given)
  exact Item.tidy_of_bare rfl nofun

/-- Values are tidy as they are read. -/
theorem tidy_of_valueWithin (depth : Nat) (c : Cursor) (i : Item) (c' : Cursor)
    (given : valueWithin depth c = .ok (i, c')) : i.Tidy := by
  induction depth generalizing c i c' with
  | zero =>
    rw [valueWithin] at given
    split at given
    · contradiction
    · exact tidy_of_scalar given
  | succ depth ih =>
    rw [valueWithin] at given
    split at given
    · exact tidy_of_array given
    split at given
    · obtain ⟨b, es, b', d, t, -, entries, made, -, rfl⟩ := inlineTable_eq_ok.mp given
      have each := tidy_of_inlineEntries ih entries
      have tidy : Table.Tidy ⟨{ t.info with span := some ⟨c.offset, c'.offset⟩ }, t.entries⟩ :=
        (insertAll_spec (fun e member => (each e member).1) made).2 (Table.tidy_empty _)
          fun e member => (each e member).2
      exact Table.tidy_toItem.mpr tidy
    · exact tidy_of_scalar given

/-! ### Statements -/

/-- A value as it is written. -/
def written : Reader Written := fun start =>
  if start.rest.head? = some '\x7b' then do
    let (_, c) ← char '\x7b' start
    let (entries, c) ← hard (inlineEntries (valueWithin (depthLimit - 2))) c
    let (_, c) ← hard inlineTableEnd c
    return (.braces entries ⟨start.offset, c.offset⟩, c)
  else (value start).map fun (i, c) => (.item i, c)

/-- A line of a document and what it says, if anything. -/
def statement : Reader (Option Statement) := fun c =>
  match c.rest with
  | [] => fail c
  | x :: _ =>
    if x = '#' then (hard commentLine c).map fun (_, c) => (none, c)
    else if x = '[' then (hard header c).map fun ((ks, repeated, span), c) => (some (.header ks repeated span), c)
    else if x = '\n' || x = '\r' then (newline c).map fun (_, c) => (none, c)
    else (hard (keyAndValue written lineRest) c).map fun ((ks, v), c) => (some (.entry ks v), c)

/-- What all lines say. -/
def statementsFrom : Nat → Reader (List Statement)
  | 0, c => .ok ([], c)
  | fuel + 1, c => do
    match ← optional statement c with
    | (none, c) => return ([], c)
    | (some st, c) =>
      let (_, c) ← blanks c
      let (sts, c) ← statementsFrom fuel c
      return (st.toList ++ sts, c)

/-- The statements of a text. -/
def statements (text : List Char) : Except Stop (List Statement) := do
  let c := Cursor.start text
  let c := if c.rest.head? = some '\uFEFF' then c.next else c
  let (_, c) ← blanks c
  let (sts, c) ← statementsFrom (c.rest.length + 1) c
  if c.atEnd then return sts else throw { offset := c.offset }

/-- A value is the item that is written. -/
theorem value_eq_ok (c : Cursor) (i : Item) (c' : Cursor) :
    value c = .ok (i, c') ↔ ∃ w, written c = .ok (w, c') ∧ w.item? = .ok i := by
  rw [written]
  split
  · next brace =>
    have inline : value c = inlineTable (valueWithin (depthLimit - 2)) c := by
      have depth : depthLimit - 1 = depthLimit - 2 + 1 := rfl
      rw [value, depth, valueWithin, if_neg (by rw [brace]; decide), if_pos brace]
    rw [inline, inlineTable_eq_ok]
    constructor
    · rintro ⟨b, es, b', d, t, opening, entries, made, closing, rfl⟩
      refine ⟨.braces es ⟨c.offset, c'.offset⟩, ?_, ?_⟩
      · exact bind_eq_ok.mpr ⟨_, opening, bind_eq_ok.mpr ⟨_, hard_eq_ok.mpr entries,
          bind_eq_ok.mpr ⟨_, hard_eq_ok.mpr closing, rfl⟩⟩⟩
      · rw [Written.item?, made]
        rfl
    · rintro ⟨w, given, made⟩
      obtain ⟨⟨b, d⟩, opening, given⟩ := bind_eq_ok.mp given
      obtain ⟨⟨es, b'⟩, entries, given⟩ := bind_eq_ok.mp given
      obtain ⟨⟨⟨⟩, b''⟩, closing, given⟩ := bind_eq_ok.mp given
      obtain ⟨rfl, rfl⟩ := Prod.mk.inj (Except.ok.inj given)
      obtain ⟨t, inserted, rfl⟩ := map_eq_ok.mp made
      exact ⟨b, es, b', d, t, opening, hard_eq_ok.mp entries, inserted, hard_eq_ok.mp closing, rfl⟩
  · constructor
    · intro given
      exact ⟨.item i, by rw [given]; rfl, rfl⟩
    · rintro ⟨w, given, made⟩
      obtain ⟨⟨j, d⟩, read, same⟩ := map_eq_ok.mp given
      obtain ⟨rfl, rfl⟩ := Prod.mk.inj same
      obtain rfl := Except.ok.inj made
      exact read

theorem tidy_of_written {w : Written} (given : written c = .ok (w, c')) : w.Tidy := by
  rw [written] at given
  split at given
  · obtain ⟨⟨b, d⟩, -, given⟩ := bind_eq_ok.mp given
    obtain ⟨⟨es, b'⟩, entries, given⟩ := bind_eq_ok.mp given
    obtain ⟨⟨⟨⟩, b''⟩, -, given⟩ := bind_eq_ok.mp given
    obtain ⟨rfl, rfl⟩ := Prod.mk.inj (Except.ok.inj given)
    exact tidy_of_inlineEntries (tidy_of_valueWithin _) (hard_eq_ok.mp entries)
  · obtain ⟨⟨i, d⟩, read, same⟩ := map_eq_ok.mp given
    obtain ⟨rfl, rfl⟩ := Prod.mk.inj same
    exact tidy_of_valueWithin _ _ _ _ read

theorem header_ne_nil {repeated : Bool} {span : Span} (given : header c = .ok ((ks, repeated, span), c')) :
    ks ≠ [] := by
  rw [header] at given
  split at given
  · contradiction
  · obtain ⟨⟨_, _⟩, -, given⟩ := bind_eq_ok.mp given
    obtain ⟨⟨ks', b⟩, path, given⟩ := bind_eq_ok.mp given
    obtain ⟨⟨_, _⟩, -, given⟩ := bind_eq_ok.mp given
    obtain ⟨⟨_, _⟩, -, given⟩ := bind_eq_ok.mp given
    obtain ⟨same, -⟩ := Prod.mk.inj (Except.ok.inj given)
    obtain ⟨rfl, -⟩ := Prod.mk.inj same
    exact key_ne_nil (hard_eq_ok.mp path)

theorem tidy_of_statement {st : Statement} (given : statement c = .ok (some st, c')) : st.Tidy := by
  rw [statement] at given
  split at given
  · contradiction
  split at given
  · obtain ⟨p, -, same⟩ := map_eq_ok.mp given
    exact absurd (Prod.mk.inj same).1 nofun
  split at given
  · obtain ⟨⟨⟨ks, repeated, span⟩, d⟩, path, same⟩ := map_eq_ok.mp given
    obtain ⟨rfl, rfl⟩ : Statement.header ks repeated span = st ∧ d = c' := by simpa using same
    exact header_ne_nil (hard_eq_ok.mp path)
  split at given
  · obtain ⟨p, -, same⟩ := map_eq_ok.mp given
    exact absurd (Prod.mk.inj same).1 nofun
  · obtain ⟨⟨⟨ks, v⟩, d⟩, entry, same⟩ := map_eq_ok.mp given
    obtain ⟨rfl, rfl⟩ : Statement.entry ks v = st ∧ d = c' := by simpa using same
    obtain ⟨b, -, -, d', b', path, -, -, value, -⟩ := keyAndValue_eq_ok.mp (hard_eq_ok.mp entry)
    exact ⟨key_ne_nil path, tidy_of_written value⟩

/-- What a line does to a document is what its statement does. -/
inductive Does (s : State) (c : Cursor) : Prop
  | done {st : Option Statement} {c' : Cursor} {s' : State} (read : statement c = .ok (st, c'))
      (applied : st.toList.foldlM Statement.apply s = .ok s') (line : line s c = .ok (s', c'))
  | refused {st : Option Statement} {c' : Cursor} {p : Problem} {e : Stop} (read : statement c = .ok (st, c'))
      (applied : st.toList.foldlM Statement.apply s = .error p) (line : line s c = .error e) (final : e.hard)
  | stopped {e e' : Stop} (read : statement c = .error e) (line : line s c = .error e') (same : e'.hard = e.hard)

variable {s s' : State}

/-- Lines that say something, where the line is read just as its statement is. -/
theorem does_of_hard (r : Reader α) (say : α → Statement) (r' : Reader State)
    (isStatement : statement c = (hard r c).map fun (a, c) => (some (say a), c)) (isLine : line s c = hard r' c)
    (same : ∀ s' c', r' c = .ok (s', c') ↔ ∃ a, r c = .ok (a, c') ∧ (say a).apply s = .ok s') : Does s c := by
  have single (st : Statement) : (some st).toList.foldlM Statement.apply s = st.apply s := by
    simp
  cases given : hard r c with
  | error e =>
    rw [given] at isStatement
    cases line : hard r' c with
    | error e' => exact .stopped isStatement (isLine.trans line) (by rw [isHard_of_hard given, isHard_of_hard line])
    | ok p =>
      obtain ⟨a, read, -⟩ := (same p.1 p.2).mp (hard_eq_ok.mp line)
      rw [hard_eq_ok.mpr read] at given
      contradiction
  | ok p =>
    obtain ⟨a, c'⟩ := p
    rw [given] at isStatement
    have read := hard_eq_ok.mp given
    cases applied : (say a).apply s with
    | ok s' =>
      have line := hard_eq_ok.mpr ((same s' c').mpr ⟨a, read, applied⟩)
      exact .done isStatement ((single _).trans applied) (isLine.trans line)
    | error p =>
      cases line : hard r' c with
      | error e => exact .refused isStatement ((single _).trans applied) (isLine.trans line) (isHard_of_hard line)
      | ok p =>
        obtain ⟨a', read', applied'⟩ := (same p.1 p.2).mp (hard_eq_ok.mp line)
        obtain ⟨rfl, -⟩ := Prod.mk.inj (Except.ok.inj (read.symm.trans read'))
        rw [applied] at applied'
        contradiction

/-- Lines that say nothing. -/
theorem does_of_silence {x : Except Stop (Unit × Cursor)} (isStatement : statement c = x.map fun (_, c) => (none, c))
    (isLine : line s c = x.map fun (_, c) => (s, c)) : Does s c := by
  cases x with
  | error e => exact .stopped isStatement isLine rfl
  | ok p => exact .done isStatement rfl isLine

theorem header_eq_ok : headerLine s c = .ok (s', c') ↔
    ∃ a : List Key × Bool × Span, header c = .ok (a, c') ∧ (Statement.header a.1 a.2.1 a.2.2).apply s = .ok s' := by
  rw [headerLine, labelled_eq_ok, checked_eq_ok]
  rfl

theorem entry_eq_ok : checked (keyAndValue value lineRest) (fun (ks, v) => s.onKeyAndValue ks v) c = .ok (s', c') ↔
    ∃ a : List Key × Written, keyAndValue written lineRest c = .ok (a, c') ∧
      (Statement.entry a.1 a.2).apply s = .ok s' := by
  rw [checked_eq_ok]
  constructor
  · rintro ⟨⟨ks, i⟩, entry, done⟩
    obtain ⟨w, entry, made⟩ := (keyAndValue_of_made value_eq_ok).mp entry
    exact ⟨(ks, w), entry, bind_eq_ok.mpr ⟨i, made, done⟩⟩
  · rintro ⟨⟨ks, w⟩, entry, done⟩
    obtain ⟨i, made, done⟩ := bind_eq_ok.mp done
    exact ⟨(ks, i), (keyAndValue_of_made value_eq_ok).mpr ⟨w, entry, made⟩, done⟩

theorem does (s : State) (c : Cursor) : Does s c := by
  cases rest : c.rest with
  | nil =>
    have stop : statement c = .error { offset := c.offset } := by
      rw [statement, rest]
      rfl
    have stop' : line s c = .error { offset := c.offset } := by
      rw [line, rest]
      rfl
    exact .stopped stop stop' rfl
  | cons x xs =>
    by_cases comment : x = '#'
    · refine does_of_silence (x := hard commentLine c) ?_ ?_
      · rw [statement, rest]
        simp only [comment, if_true]
      · rw [line, rest]
        simp only [comment, if_true]
    by_cases bracket : x = '['
    · refine does_of_hard header (fun a => .header a.1 a.2.1 a.2.2) (headerLine s) ?_ ?_ ?_
      · rw [statement, rest]
        simp only [bracket, if_true]
        rfl
      · rw [line, rest]
        simp only [bracket, if_true]
        rfl
      · exact fun s' c' => header_eq_ok
    by_cases blank : x = '\n' || x = '\r'
    · refine does_of_silence (x := newline c) ?_ ?_
      · rw [statement, rest]
        simp only [comment, bracket, blank, if_false, if_true]
      · rw [line, rest]
        simp only [comment, bracket, blank, if_false, if_true]
    · refine does_of_hard (keyAndValue written lineRest) (fun a => .entry a.1 a.2)
        (checked (keyAndValue value lineRest) fun (ks, v) => s.onKeyAndValue ks v) ?_ ?_ fun s' c' => entry_eq_ok
      · rw [statement, rest]
        simp only [comment, bracket, blank, if_false]
        rfl
      · rw [line, rest]
        simp only [comment, bracket, blank, if_false]
        rfl

/-- What lines say from one that is read on. -/
theorem statementsFrom_of_read {fuel : Nat} {first : Option Statement} {b : Cursor} {sts : List Statement}
    (read : statement c = .ok (first, b)) : statementsFrom (fuel + 1) c = .ok (sts, c') ↔
      ∃ p rest, blanks b = .ok p ∧ statementsFrom fuel p.2 = .ok (rest, c') ∧ sts = first.toList ++ rest := by
  rw [statementsFrom, optional_eq_some.mpr read, ok_bind]
  constructor
  · intro given
    obtain ⟨p, blank, given⟩ := bind_eq_ok.mp given
    obtain ⟨⟨rest, b'⟩, later, given⟩ := bind_eq_ok.mp given
    obtain ⟨rfl, rfl⟩ := Prod.mk.inj (Except.ok.inj given)
    exact ⟨p, rest, blank, later, rfl⟩
  · rintro ⟨p, rest, blank, later, rfl⟩
    exact bind_eq_ok.mpr ⟨p, blank, bind_eq_ok.mpr ⟨(rest, c'), later, rfl⟩⟩

theorem linesFrom_eq_ok {fuel : Nat} : linesFrom fuel s c = .ok (s', c') ↔
    ∃ sts, statementsFrom fuel c = .ok (sts, c') ∧ sts.foldlM Statement.apply s = .ok s' := by
  induction fuel generalizing s c with
  | zero =>
    simp only [linesFrom, statementsFrom, Except.ok.injEq, Prod.mk.injEq]
    constructor
    · rintro ⟨rfl, rfl⟩
      exact ⟨[], ⟨rfl, rfl⟩, rfl⟩
    · rintro ⟨sts, ⟨rfl, rfl⟩, done⟩
      exact ⟨Except.ok.inj done, rfl⟩
  | succ fuel ih =>
    rw [linesFrom]
    cases does s c with
    | @done st c₁ s₁ read applied line =>
      rw [optional_eq_some.mpr line, ok_bind]
      constructor
      · intro given
        obtain ⟨p, blank, given⟩ := bind_eq_ok.mp given
        obtain ⟨rest, later, done⟩ := ih.mp given
        refine ⟨st.toList ++ rest, (statementsFrom_of_read read).mpr ⟨p, rest, blank, later, rfl⟩, ?_⟩
        rw [List.foldlM_append]
        exact bind_eq_ok.mpr ⟨s₁, applied, done⟩
      · rintro ⟨sts, given, done⟩
        obtain ⟨p, rest, blank, later, rfl⟩ := (statementsFrom_of_read read).mp given
        rw [List.foldlM_append, applied, ok_bind] at done
        exact bind_eq_ok.mpr ⟨p, blank, ih.mpr ⟨rest, later, done⟩⟩
    | @refused st c₁ p e read applied line final =>
      rw [optional_of_error line, final, if_pos rfl, error_bind]
      constructor
      · intro given
        contradiction
      · rintro ⟨sts, given, done⟩
        obtain ⟨p, rest, -, -, rfl⟩ := (statementsFrom_of_read read).mp given
        rw [List.foldlM_append, applied] at done
        contradiction
    | @stopped e e' read line same =>
      rw [statementsFrom, optional_of_error line, optional_of_error read, same]
      cases e.hard with
      | true =>
        constructor
        · intro given
          contradiction
        · rintro ⟨sts, given, -⟩
          contradiction
      | false =>
        constructor
        · intro given
          obtain ⟨rfl, rfl⟩ := Prod.mk.inj (Except.ok.inj given)
          exact ⟨[], rfl, rfl⟩
        · rintro ⟨sts, given, done⟩
          obtain ⟨rfl, rfl⟩ := Prod.mk.inj (Except.ok.inj given)
          obtain rfl := Except.ok.inj done
          rfl

/-- The end of a document. -/
def documentEnd (s : State) : Reader Table := fun c =>
  if c.atEnd then
    match s.close with
    | .ok t => .ok (t, c)
    | .error p => .error { offset := c.offset, problem := some p }
  else fail c

theorem documentEnd_eq_ok {t : Table} : documentEnd s c = .ok (t, c') ↔ c.atEnd ∧ s.close = .ok t ∧ c' = c := by
  rw [documentEnd]
  split
  · next atEnd =>
    cases s.close with
    | ok t' => simp [atEnd, eq_comm]
    | error p => simp
  · next going =>
    exact ⟨nofun, fun ⟨atEnd, _⟩ => absurd atEnd going⟩

/-- The table that a text writes is the one that its statements make. -/
theorem parse_eq_ok {text : List Char} {t : Table} :
    parse text = .ok t ↔ ∃ sts, statements text = .ok sts ∧ build sts = .ok t := by
  have parsed : parse text = .ok t ↔ ∃ c, document (.start text) = .ok (t, c) := by
    rw [parse]
    cases document (.start text) with
    | error => simp
    | ok p => simp [Prod.ext_iff]
  rw [parsed]
  generalize begins : (if (Cursor.start text).rest.head? = some '\uFEFF' then (Cursor.start text).next
    else Cursor.start text) = start
  have doc : document (.start text) = (blanks start >>= fun p =>
      linesFrom (p.2.rest.length + 1) {} p.2 >>= fun q => documentEnd q.1 q.2) := by
    rw [document, ← begins]
    rfl
  have said : statements text = (blanks start >>= fun p =>
      statementsFrom (p.2.rest.length + 1) p.2 >>= fun q =>
        if q.2.atEnd then .ok q.1 else .error { offset := q.2.offset }) := by
    rw [statements, ← begins]
    rfl
  rw [doc, said]
  cases blanks start with
  | error => simp [error_bind]
  | ok p =>
    rw [ok_bind, ok_bind]
    constructor
    · rintro ⟨c, given⟩
      obtain ⟨⟨s, b⟩, lines, given⟩ := bind_eq_ok.mp given
      obtain ⟨atEnd, closed, -⟩ := documentEnd_eq_ok.mp given
      obtain ⟨sts, read, done⟩ := linesFrom_eq_ok.mp lines
      exact ⟨sts, bind_eq_ok.mpr ⟨(sts, b), read, if_pos atEnd⟩, bind_eq_ok.mpr ⟨s, done, closed⟩⟩
    · rintro ⟨sts, given, built⟩
      obtain ⟨⟨sts', b⟩, read, given⟩ := bind_eq_ok.mp given
      obtain ⟨s, done, closed⟩ := bind_eq_ok.mp built
      split at given
      · next atEnd =>
        obtain rfl := Except.ok.inj given
        have lines := linesFrom_eq_ok.mpr ⟨sts', read, done⟩
        exact ⟨b, bind_eq_ok.mpr ⟨(s, b), lines, documentEnd_eq_ok.mpr ⟨atEnd, closed, rfl⟩⟩⟩
      · contradiction

theorem tidy_of_statementsFrom {fuel : Nat} {sts : List Statement} (given : statementsFrom fuel c = .ok (sts, c')) :
    ∀ st ∈ sts, st.Tidy := by
  induction fuel generalizing c sts with
  | zero =>
    obtain ⟨rfl, rfl⟩ := Prod.mk.inj (Except.ok.inj given)
    simp
  | succ fuel ih =>
    cases read : statement c with
    | error e =>
      rw [statementsFrom, optional_of_error read] at given
      split at given
      · contradiction
      · obtain ⟨rfl, rfl⟩ := Prod.mk.inj (Except.ok.inj given)
        simp
    | ok p =>
      obtain ⟨q, rest, -, later, rfl⟩ := (statementsFrom_of_read read).mp given
      refine List.forall_mem_append.mpr ⟨fun st member => ?_, ih later⟩
      have said : p.1 = some st := Option.mem_toList.mp member
      exact tidy_of_statement (read.trans (by rw [← said]))

theorem tidy_of_statements {text : List Char} {sts : List Statement} (given : statements text = .ok sts) :
    ∀ st ∈ sts, st.Tidy := by
  obtain ⟨⟨bs, b⟩, -, given⟩ := bind_eq_ok.mp given
  obtain ⟨⟨sts', b'⟩, read, given⟩ := bind_eq_ok.mp given
  dsimp only at given
  split at given
  · obtain rfl := Except.ok.inj given
    exact tidy_of_statementsFrom read
  · contradiction

end CodeAudit.Toml
