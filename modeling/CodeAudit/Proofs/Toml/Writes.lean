import CodeAudit.Proofs.Toml.Paths
import CodeAudit.Toml.Document

/-! A document as what it writes, one thing after the other: headers, and keys with their values. The tables of the
document are made out of that step by step. What stands where afterwards is told by what was written, each at its path
and in its turn. -/
namespace CodeAudit.Toml

/-- What is written at a path. -/
inductive Content where
  | header (repeated : Bool)
  | braces
  | item (i : Item)

def Content.mark : Content → Mark
  | header repeated => if repeated then .tables else .table
  | braces => .table
  | item i => i.mark

/-- A single table is begun. -/
def Content.isTable : Content → Bool
  | header repeated => !repeated
  | braces => true
  | item _ => false

structure Write where
  path : List String
  content : Content

namespace Write

open View

/-- What stands where after something has been written. A header that is not repeated keeps what stands below it. -/
def apply (w : Write) (v : View) : View :=
  match w.content with
  | .header false => extend w.path v
  | .header true => graft w.path (leaf .tables) v
  | .braces => graft w.path (leaf .table) v
  | .item i => graft w.path i.marks v

variable {q : List String} {v : View}

theorem apply_header : (⟨q, .header false⟩ : Write).apply v = extend q v :=
  rfl

theorem apply_repeated : (⟨q, .header true⟩ : Write).apply v = graft q (leaf .tables) v :=
  rfl

/-- Something may be written where only tables are in the way and where nothing is yet. Only a header may come upon what
is there already, if that is of its own sort. -/
structure Fits (w : Write) (v : View) : Prop where
  somewhere : w.path ≠ []
  leads : Leads w.path v
  free : (∃ repeated, w.content = .header repeated ∧ ∀ m, v w.path = some m → m = w.content.mark) ∨
    ∀ p, v (w.path ++ p) = none

/-- What is written under a path. -/
def under (q : List String) (w : Write) : Write :=
  { w with path := q ++ w.path }

end Write

/-- From what stands where to what stands where after something was written, each piece as it fits. -/
def Run : View → List Write → View → Prop
  | v, [], v' => v' = v
  | v, w :: ws, v' => w.Fits v ∧ Run (w.apply v) ws v'

theorem Run.append_iff {v v' : View} {ws ws' : List Write} : Run v (ws ++ ws') v' ↔ ∃ u, Run v ws u ∧ Run u ws' v' := by
  induction ws generalizing v with
  | nil =>
    constructor
    · exact fun run => ⟨v, rfl, run⟩
    · rintro ⟨u, rfl, run⟩
      exact run
  | cons w ws ih =>
    constructor
    · rintro ⟨fits, run⟩
      obtain ⟨u, first, second⟩ := ih.mp run
      exact ⟨u, ⟨fits, first⟩, second⟩
    · rintro ⟨u, ⟨fits, first⟩, second⟩
      exact ⟨fits, ih.mpr ⟨u, first, second⟩⟩

namespace View

theorem graft_graft (q r : List String) (new u v : View) :
    graft (q ++ r) new (graft q u v) = graft q (graft r new u) v := by
  funext p
  by_cases below : q <+: p
  · obtain ⟨s, rfl⟩ := below
    rw [graft_append, graft, graft]
    simp only [List.prefix_append_right_inj, List.length_append, ← List.drop_drop, List.drop_left]
    rw [extend, extend, graft_append]
    simp only [List.prefix_append_right_inj]
  · have apart : ¬ q ++ r <+: p := fun above => below ((List.prefix_append q r).trans above)
    rw [graft_of_apart apart, graft_of_apart below]
    by_cases above : p <+: q
    · rw [extend_of_above (above.trans (List.prefix_append q r)), graft_of_apart below, extend_of_above above]
      rfl
    · have apart : ¬ p <+: q ++ r := fun before => by
        rcases List.prefix_or_prefix_of_prefix before (List.prefix_append q r) with h | h
        · exact above h
        · exact below h
      rw [extend_of_apart apart, graft_of_apart below]

end View

open View

/-- What fits into something new still fits where that is put. -/
theorem Write.Fits.under {w : Write} {u v : View} {q : List String} (fits : w.Fits u) (leads : Leads q v) :
    (w.under q).Fits (graft q u v) where
  somewhere := by simpa [Write.under] using fun _ => fits.somewhere
  leads p above proper := by
    by_cases below : q <+: p
    · obtain ⟨r, rfl⟩ := below
      rw [graft_append]
      exact fits.leads r ((List.prefix_append_right_inj q).mp above) fun same => proper (by rw [same, Write.under])
    · have above : p <+: q := (List.prefix_or_prefix_of_prefix above (List.prefix_append q w.path)).resolve_right below
      rw [graft_of_apart below, extend_of_above above, passes_getD]
      exact leads p above fun same => below (same ▸ List.prefix_rfl)
  free := by
    simp only [Write.under, graft_append, List.append_assoc]
    exact fits.free

theorem Write.apply_under {i : Item} {w : Write} (item : w.content = .item i) (q : List String) (u v : View) :
    (w.under q).apply (graft q u v) = graft q (w.apply u) v := by
  rw [Write.apply, Write.apply, Write.under, item]
  exact graft_graft ..

theorem Run.under {ws : List Write} {u u' v : View} {q : List String} (leads : Leads q v)
    (items : ∀ w ∈ ws, ∃ i, w.content = .item i) (run : Run u ws u') :
    Run (graft q u v) (ws.map (Write.under q)) (graft q u' v) := by
  induction ws generalizing u with
  | nil =>
    obtain rfl : u' = u := run
    rfl
  | cons w ws ih =>
    obtain ⟨⟨i, item⟩, items⟩ := List.forall_mem_cons.mp items
    refine ⟨run.1.under leads, ?_⟩
    rw [Write.apply_under item]
    exact ih items run.2

namespace Table

variable {t t' u u' : Table} {i : Item} {k : Key}

/-- An entry put into the table to which a path leads. -/
theorem Along.marks_put {path : List String}
    (along : Along path u { u with entries := u.entries.put k i } t t') :
    t'.marks = graft (path ++ [k.name]) i.marks t.marks := by
  funext p
  by_cases below : ∃ n r, p = path ++ n :: r
  · obtain ⟨n, r, rfl⟩ := below
    rw [along.after, Table.marks_put]
    by_cases here : k.name = n
    · subst here
      have split : path ++ k.name :: r = path ++ [k.name] ++ r := List.append_cons ..
      rw [if_pos rfl, split, graft_append]
    · have apart : ¬ path ++ [k.name] <+: path ++ n :: r := by simp [List.prefix_append_right_inj, here]
      have apart' : ¬ path ++ n :: r <+: path ++ [k.name] := by simp [List.prefix_append_right_inj, Ne.symm here]
      rw [if_neg here, graft_of_apart apart, extend_of_apart apart', along.before]
  · have apart : ¬ path ++ [k.name] <+: p := by
      rintro ⟨r, rfl⟩
      exact below ⟨k.name, r, by simp⟩
    rw [along.other p fun n r same => below ⟨n, r, same⟩, graft_of_apart apart, extend, extend]
    have same : p <+: path ++ [k.name] ↔ p <+: path := by
      rw [List.prefix_concat_iff]
      exact ⟨fun either => either.resolve_left fun equal => apart (equal ▸ List.prefix_rfl), .inr⟩
    simp only [same]

theorem Along.leads_concat {path : List String} (along : Along path u u' t t') (n : String) :
    Leads (path ++ [n]) t.marks := by
  intro p above proper
  exact along.leads p ((List.prefix_concat_iff.mp above).resolve_left proper)

/-- A table in which only one entry of the table to which a path leads may have changed. -/
theorem Along.extend_concat {path p : List String} {n : String} (along : Along path u u' t t')
    (others : ∀ m r, m ≠ n → u'.marks (m :: r) = u.marks (m :: r)) (apart : ¬ path ++ [n] <+: p) :
    extend (path ++ [n]) t'.marks p = extend (path ++ [n]) t.marks p := by
  by_cases below : ∃ m r, p = path ++ m :: r
  · obtain ⟨m, r, rfl⟩ := below
    have other : m ≠ n := by
      rintro rfl
      exact apart (by simp [List.prefix_append_right_inj])
    have apart' : ¬ path ++ m :: r <+: path ++ [n] := by simp [List.prefix_append_right_inj, other]
    rw [extend_of_apart apart', extend_of_apart apart', along.after, along.before, others m r other]
  · have above : p <+: path ++ [n] ↔ p <+: path := by
      rw [List.prefix_concat_iff]
      exact ⟨fun either => either.resolve_left fun equal => apart (equal ▸ List.prefix_rfl), .inr⟩
    rw [extend, extend, along.other p fun m r same => below ⟨m, r, same⟩, extend]
    simp only [above]
    split <;> rfl

theorem insertAt_spec {inline : Bool} {taken : String → Problem} {path : List Key}
    (given : insertAt inline taken path k i t = .ok t') :
    let w : Write := ⟨names (path ++ [k]), .item i⟩
    w.Fits t.marks ∧ t'.marks = w.apply t.marks ∧ (t.Tidy → i.Tidy → t'.Tidy) := by
  intro w
  have split : w.path = names path ++ [k.name] := List.map_append
  obtain ⟨⟨⟨⟩, t''⟩, changed, same⟩ := map_eq_ok.mp given
  obtain rfl : t'' = t' := same
  obtain ⟨u, u', put, along⟩ := exists_of_changeAt changed
  split at put
  · contradiction
  split at put
  · contradiction
  · next fresh =>
    obtain rfl := (Prod.mk.inj (Except.ok.inj put)).2
    refine ⟨⟨by simp [split], ?_, .inr fun p => ?_⟩, ?_, fun tidy item => ?_⟩
    · rw [split]
      exact along.leads_concat k.name
    · have none : u.entries.find? k.name = none := by simpa using fresh
      rw [split, List.append_assoc, List.singleton_append, along.before, marks_cons, none]
      rfl
    · rw [along.marks_put, Write.apply, split]
    · obtain ⟨old, new⟩ := along.tidy tidy
      exact new (old.put k item)

end Table

/-- The entries of an inline table as what they write. -/
def braced (entries : List (List Key × Item)) : List Write :=
  entries.map fun e => ⟨names e.1, .item e.2⟩

theorem insertAll_spec {entries : List (List Key × Item)} {t t' : Table} (keyed : ∀ e ∈ entries, e.1 ≠ [])
    (given : insertAll t entries = .ok t') :
    Run t.marks (braced entries) t'.marks ∧ (t.Tidy → (∀ e ∈ entries, e.2.Tidy) → t'.Tidy) := by
  induction entries generalizing t with
  | nil =>
    obtain rfl := Except.ok.inj given
    exact ⟨rfl, fun tidy _ => tidy⟩
  | cons e rest ih =>
    obtain ⟨ks, i⟩ := e
    obtain ⟨key, others⟩ := List.forall_mem_cons.mp keyed
    rw [insertAll] at given
    cases last : ks.getLast? with
    | none => exact absurd (List.getLast?_eq_none_iff.mp last) key
    | some k =>
      obtain ⟨path, rfl⟩ := List.getLast?_eq_some_iff.mp last
      simp only [List.dropLast_concat, List.getLast?_concat] at given
      obtain ⟨u, inserted, given⟩ := bind_eq_ok.mp given
      obtain ⟨fits, marks, tidied⟩ := Table.insertAt_spec inserted
      obtain ⟨run, tidied'⟩ := ih others given
      refine ⟨⟨fits, ?_⟩, fun tidy items => ?_⟩
      · rw [← marks]
        exact run
      · obtain ⟨item, items⟩ := List.forall_mem_cons.mp items
        exact tidied' (tidied tidy item) items

/-- A value as it is written: an inline table by its entries. -/
inductive Written where
  | item (i : Item)
  | braces (entries : List (List Key × Item)) (span : Span)

namespace Written

/-- The item that is written. -/
def item? : Written → Except Problem Item
  | item i => .ok i
  | braces entries span =>
    (insertAll { info := { inline := true } } entries).map fun t =>
      .table { t.info with span := some span } t.entries

/-- What a value at a path writes. -/
def writes (q : List String) : Written → List Write
  | item i => [⟨q, .item i⟩]
  | braces entries _ => ⟨q, .braces⟩ :: (braced entries).map (Write.under q)

/-- There is something in every key, and what is written by itself is tidy. -/
def Tidy : Written → Prop
  | item i => i.Tidy
  | braces entries _ => ∀ e ∈ entries, e.1 ≠ [] ∧ e.2.Tidy

end Written

/-- What a line of a document says. -/
inductive Statement where
  | header (path : List Key) (repeated : Bool) (span : Span)
  | entry (path : List Key) (value : Written)

namespace Statement

/-- What a statement does to a document. -/
def apply (s : State) : Statement → Except Problem State
  | header path repeated span =>
    match path.getLast? with
    | none => .ok s
    | some k => s.onHeader ⟨path.dropLast, k, repeated⟩ span
  | entry path value => value.item?.bind (s.onKeyAndValue path)

def Tidy : Statement → Prop
  | header path _ _ => path ≠ []
  | entry path value => path ≠ [] ∧ value.Tidy

end Statement

/-- What statements write, the first of them under a header with the given path. -/
def writesUnder (q : List String) : List Statement → List Write
  | [] => []
  | .header path repeated _ :: rest => ⟨names path, .header repeated⟩ :: writesUnder (names path) rest
  | .entry path value :: rest => value.writes (q ++ names path) ++ writesUnder q rest

/-- What a document writes. -/
def writes (statements : List Statement) : List Write :=
  writesUnder [] statements

theorem graft_fits {i : Item} {q : List String} {v : View} (fits : (⟨q, .item i⟩ : Write).Fits v) (c : Content) :
    (⟨q, c⟩ : Write).Fits v := by
  refine ⟨fits.somewhere, fits.leads, .inr (fits.free.resolve_left ?_)⟩
  rintro ⟨repeated, header, -⟩
  contradiction

/-- A value in terms of what it writes, where it fits. -/
theorem Written.run {value : Written} {i : Item} (made : value.item? = .ok i) (tidy : value.Tidy) :
    i.Tidy ∧ ∀ q v, (⟨q, .item i⟩ : Write).Fits v → Run v (value.writes q) ((⟨q, .item i⟩ : Write).apply v) := by
  cases value with
  | item j =>
    obtain rfl := Except.ok.inj made
    exact ⟨tidy, fun q v fits => ⟨fits, rfl⟩⟩
  | braces entries span =>
    obtain ⟨t, inserted, rfl⟩ := map_eq_ok.mp made
    obtain ⟨run, tidied⟩ := insertAll_spec (fun e member => (tidy e member).1) inserted
    have items : ∀ w ∈ braced entries, ∃ i, w.content = .item i := by
      intro w member
      obtain ⟨e, -, rfl⟩ := List.mem_map.mp member
      exact ⟨e.2, rfl⟩
    have empty : (⟨{ inline := true }, []⟩ : Table).marks = leaf .table := by
      funext p
      cases p <;> rfl
    have marks : (Item.table { t.info with span := some span } t.entries).marks = t.marks := Table.marks_mk t _
    have tidy : Table.Tidy ⟨{ t.info with span := some span }, t.entries⟩ :=
      tidied (Table.tidy_empty _) fun e member => (tidy e member).2
    rw [empty, ← marks] at run
    exact ⟨Table.tidy_toItem.mpr tidy, fun q v fits => ⟨graft_fits fits _, run.under fits.leads items⟩⟩

/-- What a header begins is what is written with it, wherever its table comes from. -/
theorem graft_eq_apply {q : List String} {repeated : Bool} {new v v' : View}
    (apart : ∀ p, ¬ q <+: p → extend q v' p = extend q v p) (own : new [] = some (Content.header repeated).mark)
    (free : ∀ m, v q = some m → m = (Content.header repeated).mark)
    (below : ∀ n p, new (n :: p) = if repeated then none else v (q ++ n :: p)) :
    graft q new v' = (⟨q, .header repeated⟩ : Write).apply v := by
  funext p
  by_cases within : q <+: p
  · obtain ⟨r, rfl⟩ := within
    rw [graft_append]
    cases repeated with
    | true =>
      rw [Write.apply_repeated, graft_append]
      cases r with
      | nil => exact own
      | cons n r => exact below n r
    | false =>
      rw [Write.apply_header]
      cases r with
      | nil =>
        rw [own, List.append_nil, extend_of_above List.prefix_rfl]
        cases there : v q with
        | none => rfl
        | some m => exact congrArg some (free m there).symm
      | cons n r =>
        have apart : ¬ q ++ n :: r <+: q := fun above => absurd above.length_le (by simp)
        rw [below n r, extend_of_apart apart]
        rfl
  · rw [graft_of_apart within, apart p within]
    cases repeated with
    | true => exact (graft_of_apart within).symm
    | false => rfl

namespace State

/-- The path of the last header. -/
def under (s : State) : List String :=
  (s.header.map fun h => names (h.path ++ [h.key])).getD []

/-- What stands in the table of a header and below it. -/
def section? (h : Header) (t : Table) : View := fun p =>
  if p = [] then some (Content.header h.repeated).mark else t.marks p

/-- What stands where, the last table included. -/
def view (s : State) : View :=
  match s.header with
  | none => s.current.marks
  | some h => graft s.under (section? h s.current) s.root.marks

/-- The tables are tidy, and only tables are in the way of the last header. -/
structure Tidy (s : State) : Prop where
  root : s.root.Tidy
  current : s.current.Tidy
  leads : Leads s.under s.root.marks

variable {s s' : State} {t : Table}

/-- The item of the table that was current stands for it, however many tables there are in front of it. -/
theorem joined_spec {u : Table} {h : Header} {i : Item} (joined : (match u.entries.find? h.key.name, h.repeated with
      | some (.tables items), true => .ok (.tables (items ++ [s.current.toItem]))
      | none, true => .ok (.tables [s.current.toItem])
      | none, false => .ok s.current.toItem
      | some _, _ => .error (taken h)) = Except.ok i) :
    i.mark = (Content.header h.repeated).mark ∧ i.table? = some s.current ∧ (u.Tidy → s.current.Tidy → i.Tidy) := by
  split at joined
  · next items found repeated =>
    obtain rfl := Except.ok.inj joined
    have inner : (Item.tables (items ++ [s.current.toItem])).table? = some s.current := by
      simp [Item.table?, Table.toItem]
    refine ⟨by rw [repeated]; rfl, inner, fun tidy current => Item.tidy_iff.mpr ⟨fun t here => ?_, ?_⟩⟩
    · obtain rfl := Option.some.inj (inner.symm.trans here)
      exact current
    · rintro _ ⟨⟩
      obtain ⟨info, es, rest, rfl⟩ := (Item.tidy_iff.mp (tidy.2 _ _ found)).2 items rfl
      exact ⟨info, es, _, rfl⟩
  · next found repeated =>
    obtain rfl := Except.ok.inj joined
    refine ⟨by rw [repeated]; rfl, rfl, fun tidy current => Item.tidy_iff.mpr ⟨?_, ?_⟩⟩
    · rintro t ⟨⟩
      exact current
    · rintro _ ⟨⟩
      exact ⟨_, _, [], rfl⟩
  · next found single =>
    obtain rfl := Except.ok.inj joined
    exact ⟨by rw [single]; rfl, rfl, fun _ current => Table.tidy_toItem.mpr current⟩
  · contradiction

theorem close_spec (closed : s.close = .ok t) : t.marks = s.view ∧ (s.Tidy → t.Tidy) := by
  rw [close] at closed
  rw [view]
  cases header : s.header with
  | none =>
    rw [header] at closed
    obtain rfl := Except.ok.inj closed
    exact ⟨rfl, fun tidy => tidy.current⟩
  | some h =>
    simp only [header] at closed
    obtain ⟨⟨⟨⟩, t'⟩, changed, same⟩ := map_eq_ok.mp closed
    obtain rfl : t' = t := same
    obtain ⟨u, u', put, along⟩ := Table.exists_of_changeAt changed
    obtain ⟨i, joined, same⟩ := map_eq_ok.mp put
    obtain rfl := (Prod.mk.inj same).2
    have under : s.under = names h.path ++ [h.key.name] := by simp [State.under, header, names]
    -- The new item stands for the table that was current, however many tables there are in front of it.
    obtain ⟨mark, inner, tidied⟩ := joined_spec joined
    refine ⟨?_, fun tidy => ?_⟩
    · rw [along.marks_put, under]
      congr 1
      funext p
      rcases p with _ | ⟨n, p⟩
      · exact congrArg some mark
      · exact Table.marks_of_table? inner n p
    · obtain ⟨old, new⟩ := along.tidy tidy.root
      exact new (old.put h.key (tidied old tidy.current))

/-- What a header finds in the table in which it is looked up, and what is left there. -/
theorem opened_spec {h : Header} {u u' : Table} {kept : Entries} (found : opened h u = .ok (kept, u')) :
    (∀ i, u.entries.find? h.key.name = some i → i.mark = (Content.header h.repeated).mark) ∧
      (∀ n p, n ≠ h.key.name → u'.marks (n :: p) = u.marks (n :: p)) ∧
      (∀ n p info, Table.marks ⟨info, kept⟩ (n :: p) =
        if h.repeated then none else u.marks (h.key.name :: n :: p)) ∧
      (u.Tidy → u'.Tidy ∧ ∀ info, Table.Tidy ⟨info, kept⟩) := by
  rw [opened] at found
  have nothing (info : TableInfo) (n : String) (p : List String) : Table.marks ⟨info, []⟩ (n :: p) = none :=
    Table.marks_cons ..
  split at found
  · next none =>
    obtain ⟨rfl, rfl⟩ := Prod.mk.inj (Except.ok.inj found)
    refine ⟨fun i there => ?_, fun _ _ _ => rfl, fun n p info => ?_, fun tidy => ⟨tidy, Table.tidy_empty⟩⟩
    · rw [none] at there
      contradiction
    · rw [nothing, Table.marks_cons, none]
      simp
  · next items there repeated =>
    obtain ⟨rfl, rfl⟩ := Prod.mk.inj (Except.ok.inj found)
    refine ⟨fun i there' => ?_, fun _ _ _ => rfl, fun n p info => ?_, fun tidy => ⟨tidy, Table.tidy_empty⟩⟩
    · obtain rfl := Option.some.inj (there.symm.trans there')
      rw [repeated]
      rfl
    · rw [nothing, if_pos repeated]
  · next info es there single =>
    split at found
    · obtain ⟨rfl, rfl⟩ := Prod.mk.inj (Except.ok.inj found)
      refine ⟨fun i there' => ?_, fun n p other => ?_, fun n p info' => ?_, fun tidy => ⟨tidy.erase _, fun info' => ?_⟩⟩
      · obtain rfl := Option.some.inj (there.symm.trans there')
        rw [single]
        rfl
      · rw [Table.marks_cons, Table.marks_cons, Entries.find?_erase _ other]
      · rw [single, Table.marks_cons u, there, Option.bind_some]
        rfl
      · have tidy' : Table.Tidy ⟨info, es⟩ := Table.tidy_toItem.mp (tidy.2 _ _ there)
        exact tidy'
    · contradiction
  · contradiction

theorem onHeader_spec {h : Header} {span : Span} (tidy : s.Tidy) (given : s.onHeader h span = .ok s') :
    let w : Write := ⟨names (h.path ++ [h.key]), .header h.repeated⟩
    s'.under = w.path ∧ w.Fits s.view ∧ s'.view = w.apply s.view ∧ s'.Tidy := by
  intro w
  have split : w.path = names h.path ++ [h.key.name] := List.map_append
  obtain ⟨t, closed, given⟩ := bind_eq_ok.mp given
  obtain ⟨⟨kept, root⟩, changed, given⟩ := bind_eq_ok.mp given
  obtain rfl := Except.ok.inj given
  obtain ⟨marks, tidied⟩ := close_spec closed
  obtain ⟨u, u', found, along⟩ := Table.exists_of_changeAt changed
  obtain ⟨own, others, below, cleared⟩ := opened_spec found
  have under : State.under { root, current := ⟨{ span := some span }, kept⟩, header := some h } = w.path := rfl
  have here (p : List String) : t.marks (w.path ++ p) = (u.entries.find? h.key.name).bind (·.marks p) := by
    rw [split, List.append_assoc, List.singleton_append, along.before, Table.marks_cons]
  have free (m : Mark) (there : t.marks w.path = some m) : m = (Content.header h.repeated).mark := by
    have item := here []
    rw [List.append_nil, there] at item
    obtain ⟨i, standing, mark⟩ := Option.bind_eq_some_iff.mp item.symm
    rw [← own i standing]
    exact (Option.some.inj mark).symm
  have leads : Leads w.path t.marks := split ▸ along.leads_concat _
  have apart (p : List String) (outside : ¬ w.path <+: p) :
      extend w.path root.marks p = extend w.path t.marks p := by
    rw [split] at outside ⊢
    exact along.extend_concat others outside
  rw [← marks]
  refine ⟨under, ⟨by simp [split], leads, .inl ⟨_, rfl, free⟩⟩, ?_, ?_, ?_, ?_⟩
  · have inside (n : String) (p : List String) : section? h ⟨{ span := some span }, kept⟩ (n :: p) =
        if h.repeated then none else t.marks (w.path ++ n :: p) := by
      rw [here, section?, if_neg (List.cons_ne_nil n p), below, Table.marks_cons]
    exact graft_eq_apply apart rfl free inside
  · obtain ⟨old, new⟩ := along.tidy (tidied tidy)
    exact new (cleared old).1
  · exact (cleared (along.tidy (tidied tidy)).1).2 _
  · rw [under]
    intro p above proper
    have outside : ¬ w.path <+: p := fun below => proper (above.eq_of_length_le below.length_le)
    have same := apart p outside
    rw [extend_of_above above, extend_of_above above] at same
    rw [← passes_getD, same, passes_getD]
    exact leads p above proper

/-- An entry of a table under a header does not change what the table is. -/
theorem section_of_graft {h : Header} {t : Table} {c : Table} {q : List String} {new : View} (somewhere : q ≠ [])
    (marks : t.marks = graft q new c.marks) : section? h t = graft q new (section? h c) := by
  funext p
  cases p with
  | nil =>
    have apart : ¬ q <+: [] := fun above => somewhere (List.prefix_nil.mp above)
    rw [graft_of_apart apart, extend_of_above List.nil_prefix]
    rfl
  | cons n p =>
    rw [section?, if_neg (List.cons_ne_nil n p), marks, graft, graft, extend, extend, section?,
      if_neg (List.cons_ne_nil n p)]

theorem section_fits {h : Header} {c : Table} {w : Write} (fits : w.Fits c.marks) : w.Fits (section? h c) where
  somewhere := fits.somewhere
  leads p above proper := by
    cases p with
    | nil => cases repeated : h.repeated <;> simp [section?, Passes, Content.mark, repeated]
    | cons n p => exact fits.leads _ above proper
  free := by
    have same (p : List String) : section? h c (w.path ++ p) = c.marks (w.path ++ p) := by
      rw [section?, if_neg fun none => fits.somewhere (List.append_eq_nil_iff.mp none).1]
    have here := same []
    rw [List.append_nil] at here
    rw [here]
    simp only [same]
    exact fits.free

theorem onKeyAndValue_spec {path : List Key} {i : Item} (tidy : s.Tidy) (key : path ≠ []) (item : i.Tidy)
    (given : s.onKeyAndValue path i = .ok s') :
    let w : Write := ⟨s.under ++ names path, .item i⟩
    s'.under = s.under ∧ w.Fits s.view ∧ s'.view = w.apply s.view ∧ s'.Tidy := by
  intro w
  rw [onKeyAndValue] at given
  cases last : path.getLast? with
  | none => exact absurd (List.getLast?_eq_none_iff.mp last) key
  | some k =>
    obtain ⟨front, rfl⟩ := List.getLast?_eq_some_iff.mp last
    simp only [List.getLast?_concat, List.dropLast_concat] at given
    obtain ⟨t, inserted, rfl⟩ := map_eq_ok.mp given
    obtain ⟨fits, marks, tidied⟩ := Table.insertAt_spec inserted
    rw [Table.marks_mk s.current] at fits marks
    refine ⟨rfl, ?_, ?_, ⟨tidy.root, tidied tidy.current item, tidy.leads⟩⟩
    · rw [view]
      cases header : s.header with
      | none => simpa [w, State.under, header] using fits
      | some h => exact (section_fits fits).under tidy.leads
    · cases header : s.header with
      | none => simpa [w, view, State.under, header] using marks
      | some h =>
        have outer (c : Table) : view { s with current := c } = graft s.under (section? h c) s.root.marks := by
          simp [view, State.under, header]
        have inner : section? h t = (⟨names (front ++ [k]), .item i⟩ : Write).apply (section? h s.current) :=
          section_of_graft fits.somewhere marks
        rw [← header, outer t, inner, ← Write.apply_under rfl]
        exact congrArg w.apply (outer s.current).symm

end State

variable {s s' : State}

/-- What a statement does is what it writes. -/
theorem Statement.run {st : Statement} (tidy : s.Tidy) (own : st.Tidy) (done : st.apply s = .ok s') :
    (∀ rest, ∃ ws, writesUnder s.under (st :: rest) = ws ++ writesUnder s'.under rest ∧ Run s.view ws s'.view) ∧
      s'.Tidy := by
  cases st with
  | header path repeated span =>
    rw [apply] at done
    cases last : path.getLast? with
    | none => exact absurd (List.getLast?_eq_none_iff.mp last) own
    | some k =>
      obtain ⟨front, rfl⟩ := List.getLast?_eq_some_iff.mp last
      simp only [List.getLast?_concat, List.dropLast_concat] at done
      obtain ⟨under, fits, view, tidy'⟩ := State.onHeader_spec tidy done
      refine ⟨fun rest => ⟨[⟨names (front ++ [k]), .header repeated⟩], ?_, fits, view⟩, tidy'⟩
      rw [under]
      rfl
  | entry path value =>
    obtain ⟨i, made, done⟩ := bind_eq_ok.mp done
    obtain ⟨key, value'⟩ := own
    obtain ⟨item, run⟩ := Written.run made value'
    obtain ⟨under, fits, view, tidy'⟩ := State.onKeyAndValue_spec tidy key item done
    refine ⟨fun rest => ⟨value.writes (s.under ++ names path), ?_, view ▸ run _ _ fits⟩, tidy'⟩
    rw [under]
    rfl

/-- What stands where in a document is told by what its statements write. -/
theorem run_of_statements {sts : List Statement} (tidy : s.Tidy) (own : ∀ st ∈ sts, st.Tidy)
    (done : sts.foldlM Statement.apply s = .ok s') : Run s.view (writesUnder s.under sts) s'.view ∧ s'.Tidy := by
  induction sts generalizing s with
  | nil =>
    obtain rfl := Except.ok.inj done
    exact ⟨rfl, tidy⟩
  | cons st sts ih =>
    obtain ⟨first, others⟩ := List.forall_mem_cons.mp own
    rw [List.foldlM_cons] at done
    obtain ⟨u, here, done⟩ := bind_eq_ok.mp done
    obtain ⟨writes, tidy'⟩ := st.run tidy first here
    obtain ⟨ws, split, run⟩ := writes sts
    obtain ⟨rest, final⟩ := ih tidy' others done
    exact ⟨split ▸ Run.append_iff.mpr ⟨_, run, rest⟩, final⟩

/-- The table that some statements make. -/
def build (sts : List Statement) : Except Problem Table :=
  sts.foldlM Statement.apply {} >>= State.close

theorem run_of_build {sts : List Statement} {t : Table} (own : ∀ st ∈ sts, st.Tidy) (built : build sts = .ok t) :
    Run (leaf .table) (writes sts) t.marks ∧ t.Tidy := by
  obtain ⟨s, done, closed⟩ := bind_eq_ok.mp built
  have tidy : State.Tidy {} := by
    refine ⟨Table.tidy_empty _, Table.tidy_empty _, fun p above proper => ?_⟩
    exact absurd (List.prefix_nil.mp above) proper
  have empty : State.view {} = leaf .table := by
    funext p
    cases p <;> rfl
  obtain ⟨run, tidy'⟩ := run_of_statements tidy own done
  obtain ⟨marks, tidied⟩ := State.close_spec closed
  rw [empty] at run
  exact ⟨marks ▸ run, tidied tidy'⟩

end CodeAudit.Toml
