import CodeAudit.Proofs.Data.Result
import CodeAudit.Proofs.Toml.Paths
import CodeAudit.Settings.OfToml

/-! Records read from tables. Each member of a record is read from the entry of its name, whatever other entries there
are and in whatever order; a member without an entry stays as it was. -/
namespace CodeAudit.Toml

variable {α ι : Type} {β : ι → Type}

/-- The members of a record are read each by itself: what is got of a member is what its reader makes of an item, and
no reader changes what is got of another one. -/
structure Fields (members : Members α) (key : ι → String) (get : (x : ι) → α → β x)
    (reads : (x : ι) → Item → β x → Prop) : Prop where
  named : ∀ name read, members.lookup name = some read → ∃ x, key x = name
  own : ∀ x, ∃ read, members.lookup (key x) = some read ∧
    (∀ r i r', read r i = .ok r' → reads x i (get x r') ∧ ∀ y, y ≠ x → get y r' = get y r) ∧
    ∀ r i b, reads x i b → ∃ r', read r i = .ok r'

/-- What an entry does to a record. -/
def readEntry (members : Members α) (record : α) (e : Key × Item) : Except Mismatch α :=
  match members.lookup e.1.name with
  | some read => within (e.2.span?.or (some e.1.span)) (read record e.2)
  | none => .ok record

theorem within_eq_ok {span : Option Span} {x : Except Mismatch α} {a : α} : within span x = .ok a ↔ x = .ok a :=
  mapError_eq_ok

theorem readRecord_table {name : String} {members : Members α} {record r : α} {info : TableInfo} {es : Entries} :
    readRecord name members record (.table info es) = .ok r ↔ es.foldlM (readEntry members) record = .ok r :=
  within_eq_ok

theorem readRecord_tables {name : String} {members : Members α} {record r : α} {items : List Item} :
    readRecord name members record (.tables items) = .ok r ↔
      (members.zip items).foldlM (fun record (m, i) => m.2 record i) record = .ok r :=
  within_eq_ok

namespace Fields

variable {members : Members α} {key : ι → String} {get : (x : ι) → α → β x} {reads : (x : ι) → Item → β x → Prop}
  {es : Entries} {e : Key × Item} {record r : α} {x : ι}

/-- An entry is read into its member and leaves the others. -/
theorem get_of_readEntry (fields : Fields members key get reads) (read : readEntry members record e = .ok r) :
    (key x = e.1.name → reads x e.2 (get x r)) ∧ (key x ≠ e.1.name → get x r = get x record) := by
  rw [readEntry] at read
  constructor
  · intro same
    obtain ⟨reader, found, own, -⟩ := fields.own x
    rw [← same, found] at read
    exact (own _ _ _ (within_eq_ok.mp read)).1
  · intro other
    cases found : members.lookup e.1.name with
    | none =>
      rw [found] at read
      rw [Except.ok.inj read]
    | some reader =>
      obtain ⟨y, named⟩ := fields.named _ _ found
      obtain ⟨reader', found', own, -⟩ := fields.own y
      rw [named, found] at found'
      obtain rfl := Option.some.inj found'
      rw [found] at read
      exact (own _ _ _ (within_eq_ok.mp read)).2 x fun same => other (same ▸ named)

theorem get_of_foldlM (fields : Fields members key get reads) (distinct : es.Distinct)
    (read : es.foldlM (readEntry members) record = .ok r) (x : ι) :
    (∀ i, es.find? (key x) = some i → reads x i (get x r)) ∧ (es.find? (key x) = none → get x r = get x record) := by
  induction es generalizing record with
  | nil =>
    obtain rfl := Except.ok.inj read
    exact ⟨nofun, fun _ => rfl⟩
  | cons e es ih =>
    obtain ⟨new, distinct⟩ := List.nodup_cons.mp distinct
    rw [List.foldlM_cons] at read
    obtain ⟨r₁, first, read⟩ := bind_eq_ok.mp read
    obtain ⟨mine, kept⟩ := ih distinct read
    obtain ⟨own, other⟩ := fields.get_of_readEntry first (x := x)
    rw [Entries.find?_cons]
    by_cases same : e.1.name = key x
    · have none : Entries.find? es (key x) = none := Entries.find?_eq_none_iff.mpr (same ▸ new)
      rw [if_pos same, kept none]
      exact ⟨fun i this => Option.some.inj this ▸ own same.symm, nofun⟩
    · rw [if_neg same, ← other (Ne.symm same)]
      exact ⟨mine, kept⟩

theorem exists_foldlM (fields : Fields members key get reads) (distinct : es.Distinct)
    (readable : ∀ x i, es.find? (key x) = some i → ∃ b, reads x i b) (record : α) :
    ∃ r, es.foldlM (readEntry members) record = .ok r := by
  induction es generalizing record with
  | nil => exact ⟨record, rfl⟩
  | cons e es ih =>
    obtain ⟨new, distinct⟩ := List.nodup_cons.mp distinct
    have first (x : ι) (same : e.1.name = key x) : ∃ b, reads x e.2 b :=
      readable x e.2 (by rw [Entries.find?_cons, if_pos same])
    have others (x : ι) (i : Item) (found : Entries.find? es (key x) = some i) : ∃ b, reads x i b := by
      refine readable x i ?_
      rw [Entries.find?_cons, if_neg, found]
      intro same
      rw [Entries.find?_eq_none_iff.mpr (same ▸ new)] at found
      contradiction
    obtain ⟨r₁, read⟩ : ∃ r₁, readEntry members record e = .ok r₁ := by
      rw [readEntry]
      cases found : members.lookup e.1.name with
      | none => exact ⟨record, rfl⟩
      | some reader =>
        obtain ⟨x, named⟩ := fields.named _ _ found
        obtain ⟨reader', found', -, total⟩ := fields.own x
        rw [named, found] at found'
        obtain rfl := Option.some.inj found'
        obtain ⟨b, readable⟩ := first x named.symm
        obtain ⟨r₁, read⟩ := total record e.2 b readable
        exact ⟨r₁, within_eq_ok.mpr read⟩
    obtain ⟨r, rest⟩ := ih distinct others r₁
    exact ⟨r, by rw [List.foldlM_cons, read]; exact rest⟩

end Fields

/-! ### Members that are values -/

/-- The types that settings have. A size is a number that is not negative. -/
inductive ValueType where
  | boolean
  | text
  | size

def ValueType.takes : ValueType → Scalar → Bool
  | boolean, .boolean _ => true
  | text, .string _ => true
  | size, .integer n => 0 ≤ n
  | _, _ => false

/-- A reader takes the values of a type and nothing else. -/
structure ReadsType {γ : Type} (type : ValueType) (read : Item → Except Mismatch γ) (scalar : γ → Scalar) : Prop where
  eq_ok : ∀ i a, read i = .ok a ↔ i.mark = .scalar (scalar a)
  takes : ∀ v, type.takes v ↔ ∃ a, v = scalar a

theorem readsType_boolean : ReadsType .boolean readBool .boolean where
  eq_ok i a := by
    rcases i with ⟨_ | _ | _ | _ | _, _⟩ | _ | _ | _ <;> simp [readBool, wrongType, Item.mark]
  takes v := by cases v <;> simp [ValueType.takes]

theorem readsType_text : ReadsType .text readPath .string where
  eq_ok i a := by
    rcases i with ⟨_ | _ | _ | _ | _, _⟩ | _ | _ | _ <;> simp [readPath, wrongType, Item.mark]
  takes v := by cases v <;> simp [ValueType.takes]

theorem readsType_size : ReadsType .size readWord fun n => .integer n where
  eq_ok i a := by
    rcases i with ⟨_ | n | _ | _ | _, _⟩ | _ | _ | _ <;> simp [readWord, wrongType, Item.mark]
    split <;> simp <;> omega
  takes v := by
    cases v with
    | integer n =>
      simp only [ValueType.takes, decide_eq_true_eq, Scalar.integer.injEq]
      exact ⟨fun positive => ⟨n.toNat, (Int.toNat_of_nonneg positive).symm⟩,
        fun ⟨a, same⟩ => same ▸ Int.natCast_nonneg a⟩
    | _ => simp [ValueType.takes]

/-- What a value of a type in an item is for a member. -/
def Reads (type : ValueType) (i : Item) (value : Option Scalar) : Prop :=
  ∃ v, i.mark = .scalar v ∧ type.takes v ∧ value = some v

/-- A member that is set to what a reader takes. -/
theorem ReadsType.own {γ : Type} {type : ValueType} {read : Item → Except Mismatch γ} {scalar : γ → Scalar}
    (typed : ReadsType type read scalar) (set : α → γ → α) {get : ι → α → Option Scalar} (x : ι)
    (got : ∀ r a, get x (set r a) = some (scalar a)) (kept : ∀ y, y ≠ x → ∀ r a, get y (set r a) = get y r) :
    (∀ r i r', (do return set r (← read i)) = Except.ok r' →
      Reads type i (get x r') ∧ ∀ y, y ≠ x → get y r' = get y r) ∧
      ∀ r i b, Reads type i b → ∃ r', (do return set r (← read i)) = Except.ok (ε := Mismatch) r' := by
  constructor
  · intro r i r' given
    obtain ⟨a, read, same⟩ := bind_eq_ok.mp given
    obtain rfl := Except.ok.inj same
    exact ⟨⟨scalar a, (typed.eq_ok i a).mp read, (typed.takes _).mpr ⟨a, rfl⟩, got r a⟩,
      fun y other => kept y other r a⟩
  · rintro r i b ⟨v, mark, takes, -⟩
    obtain ⟨a, rfl⟩ := (typed.takes v).mp takes
    exact ⟨set r a, bind_eq_ok.mpr ⟨a, (typed.eq_ok i a).mpr mark, rfl⟩⟩

theorem exists_of_lookup {members : Members α} {key : ι → String} (xs : List ι)
    (names : members.map Prod.fst = xs.map key) (name : String) (read : α → Item → Except Mismatch α)
    (found : members.lookup name = some read) : ∃ x, key x = name := by
  obtain ⟨front, back, split, -⟩ := List.lookup_eq_some_iff.mp found
  have member : name ∈ members.map Prod.fst := by simp [split]
  rw [names] at member
  obtain ⟨x, -, named⟩ := List.mem_map.mp member
  exact ⟨x, named⟩

namespace Fields

variable {members : Members α} {key : ι → String} {get : ι → α → Option Scalar} {type : ι → ValueType} {name : String}
  {record r : α} {i : Item}

theorem eq_table_of_mark (table : i.mark = .table) : ∃ info, ∃ es : Entries, i = .table info es := by
  cases i with
  | table info es => exact ⟨info, es, rfl⟩
  | _ => contradiction

theorem marks_singleton {info : TableInfo} {es : Entries} {n : String} :
    (Item.table info es).marks [n] = (es.find? n).map Item.mark :=
  Table.marks_single ⟨info, es⟩ n

/-- Each member has the value that stands in the table under its name, or the value that it had before. -/
theorem get_of_readRecord (fields : Fields members key get fun x => Reads (type x)) (tidy : i.Tidy)
    (table : i.mark = .table) (read : readRecord name members record i = .ok r) (x : ι) :
    (∀ m, i.marks [key x] = some m → ∃ v, m = .scalar v ∧ (type x).takes v ∧ get x r = some v) ∧
      (i.marks [key x] = none → get x r = get x record) := by
  obtain ⟨info, es, rfl⟩ := eq_table_of_mark table
  have distinct : es.Distinct := (Table.tidy_toItem (t := ⟨info, es⟩)).mp tidy |>.1
  obtain ⟨own, kept⟩ := fields.get_of_foldlM distinct (readRecord_table.mp read) x
  rw [marks_singleton]
  constructor
  · intro m given
    obtain ⟨j, found, rfl⟩ := Option.map_eq_some_iff.mp given
    exact own j found
  · intro none
    exact kept (Option.map_eq_none_iff.mp none)

/-- A record is read from a table if what stands there under the names of its members are values of their types. -/
theorem exists_readRecord (fields : Fields members key get fun x => Reads (type x)) (tidy : i.Tidy)
    (table : i.mark = .table)
    (suited : ∀ x m, i.marks [key x] = some m → ∃ v, m = .scalar v ∧ (type x).takes v) :
    ∃ r, readRecord name members record i = .ok r := by
  obtain ⟨info, es, rfl⟩ := eq_table_of_mark table
  have distinct : es.Distinct := (Table.tidy_toItem (t := ⟨info, es⟩)).mp tidy |>.1
  have readable (x : ι) (j : Item) (found : es.find? (key x) = some j) : ∃ b, Reads (type x) j b := by
    obtain ⟨v, mark, takes⟩ := suited x j.mark (by rw [marks_singleton, found]; rfl)
    exact ⟨some v, v, mark, takes, rfl⟩
  obtain ⟨r, read⟩ := fields.exists_foldlM distinct readable record
  exact ⟨r, readRecord_table.mpr read⟩

/-- A record is not read from tables under one header. -/
theorem readRecord_ne_of_tables (fields : Fields members key get fun x => Reads (type x)) (some : members ≠ [])
    (tidy : i.Tidy) (tables : i.mark = .tables) : readRecord name members record i ≠ .ok r := by
  intro read
  cases i with
  | tables items =>
  obtain ⟨info, es, rest, rfl⟩ := tidy.filled [] items rfl
  obtain ⟨⟨n, reader⟩, others, rfl⟩ := List.exists_cons_of_ne_nil some
  rw [readRecord_tables, List.zip_cons_cons, List.foldlM_cons] at read
  obtain ⟨r₁, first, -⟩ := bind_eq_ok.mp read
  have found : List.lookup n ((n, reader) :: others) = .some reader := by simp
  obtain ⟨x, rfl⟩ := fields.named n reader found
  obtain ⟨reader', found', own, -⟩ := fields.own x
  obtain rfl := Option.some.inj (found.symm.trans found')
  obtain ⟨⟨v, mark, -⟩, -⟩ := own _ _ _ first
  contradiction
  | _ => contradiction

end Fields

end CodeAudit.Toml
