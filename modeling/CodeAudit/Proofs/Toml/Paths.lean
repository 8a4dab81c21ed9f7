import CodeAudit.Proofs.Data.Result
import CodeAudit.Toml.Table
import Mathlib.Data.List.Infix

/-! What stands where in a table. A path leads through tables, and of tables under one header through the last. An entry
that is put into a table under a path changes what stands there and below, and makes the tables that are missing on the
way; all else stays. -/
namespace CodeAudit.Toml

/-- What an item is, as far as paths are concerned. -/
inductive Mark where
  | scalar (s : Scalar)
  | array
  | table
  | tables

/-- A path may go on here: there are tables, or there is room for one. -/
def Passes (m : Option Mark) : Prop :=
  m = none ∨ m = some .table ∨ m = some .tables

theorem passes_getD {m : Option Mark} : Passes (some (m.getD .table)) ↔ Passes m := by
  cases m <;> simp [Passes]

/-- What stands at each path. -/
abbrev View := List String → Option Mark

namespace View

/-- A single item with nothing in it. -/
def leaf (m : Mark) : View := fun p =>
  if p = [] then some m else none

/-- The tables on the way to a path are there. -/
def extend (q : List String) (v : View) : View := fun p =>
  if p <+: q then some ((v p).getD .table) else v p

/-- At a path and below it there is something new. -/
def graft (q : List String) (new v : View) : View := fun p =>
  if q <+: p then new (p.drop q.length) else extend q v p

/-- Nothing is in the way of a path. -/
def Leads (q : List String) (v : View) : Prop :=
  ∀ p, p <+: q → p ≠ q → Passes (v p)

variable {p q r : List String} {v new : View}

theorem extend_of_above (above : p <+: q) : extend q v p = some ((v p).getD .table) :=
  if_pos above

theorem extend_of_apart (apart : ¬ p <+: q) : extend q v p = v p :=
  if_neg apart

theorem graft_append : graft q new v (q ++ r) = new r := by
  rw [graft, if_pos (List.prefix_append q r), List.drop_left]

theorem graft_self : graft q new v q = new [] := by
  simpa using graft_append (r := [])

theorem graft_of_apart (apart : ¬ q <+: p) : graft q new v p = extend q v p :=
  if_neg apart

end View

def names (path : List Key) : List String :=
  path.map Key.name

namespace Entries

theorem find?_put (es : Entries) (k : Key) (i : Item) (n : String) :
    (es.put k i).find? n = if k.name = n then some i else es.find? n := by
  induction es with
  | nil => by_cases same : k.name = n <;> simp [put, find?, same]
  | cons e rest ih =>
    obtain ⟨k', i'⟩ := e
    unfold find? at ih ⊢
    rw [put]
    by_cases same : k'.name = k.name
    · by_cases here : k.name = n <;> simp [same, here]
    · rw [if_neg same]
      by_cases here : k'.name = n
      · have other : k.name ≠ n := fun equal => same (here.trans equal.symm)
        simp [here, other]
      · simpa [here] using ih

theorem find?_erase (es : Entries) {n m : String} (other : m ≠ n) : (es.erase n).find? m = es.find? m := by
  rw [find?, find?, erase, List.find?_filter]
  congr 2
  funext e
  by_cases same : e.1.name = m <;> simp [same, other]

theorem find?_cons (e : Key × Item) (es : Entries) (n : String) :
    find? (e :: es) n = if e.1.name = n then some e.2 else find? es n := by
  by_cases same : e.1.name = n <;> simp [find?, same]

theorem find?_eq_none_iff {es : Entries} {n : String} : es.find? n = none ↔ n ∉ es.map (·.1.name) := by
  rw [find?, Option.map_eq_none_iff, List.find?_eq_none, List.mem_map]
  simp

theorem find?_erase_self (es : Entries) (n : String) : (es.erase n).find? n = none := by
  rw [find?_eq_none_iff, erase]
  simp

/-- No two entries have the same name. -/
def Distinct (es : Entries) : Prop :=
  (es.map (·.1.name)).Nodup

theorem names_put (es : Entries) (k : Key) (i : Item) : (es.put k i).map (·.1.name) = es.map (·.1.name) ∨
    (k.name ∉ es.map (·.1.name) ∧ (es.put k i).map (·.1.name) = es.map (·.1.name) ++ [k.name]) := by
  induction es with
  | nil => exact .inr ⟨List.not_mem_nil, rfl⟩
  | cons e rest ih =>
    obtain ⟨k', i'⟩ := e
    rw [put]
    by_cases same : k'.name = k.name
    · simp [same]
    · rw [if_neg same]
      rcases ih with kept | ⟨new, behind⟩
      · exact .inl (by simp [kept])
      · exact .inr ⟨by simpa [Ne.symm same] using new, by simp [behind]⟩

theorem Distinct.put {es : Entries} (distinct : es.Distinct) (k : Key) (i : Item) : (es.put k i).Distinct := by
  rcases names_put es k i with kept | ⟨new, behind⟩
  · rw [Distinct, kept]
    exact distinct
  · rw [Distinct, behind]
    refine List.nodup_append.mpr ⟨distinct, by simp, fun n member m single => ?_⟩
    obtain rfl := List.mem_singleton.mp single
    rintro rfl
    exact new member

theorem Distinct.erase {es : Entries} (distinct : es.Distinct) (n : String) : (es.erase n).Distinct :=
  distinct.sublist (List.filter_sublist.map _)

end Entries

namespace Item

/-- What an item is. -/
def mark : Item → Mark
  | .scalar s _ => .scalar s
  | .array .. => .array
  | .table .. => .table
  | .tables _ => .tables

/-- The table in which a path goes on that leads through an item. -/
def table? : Item → Option Table
  | .table info es => some ⟨info, es⟩
  | .tables items =>
    match items.getLast? with
    | some (.table info es) => some ⟨info, es⟩
    | _ => none
  | _ => none

/-- The item to which a path leads. -/
def at? : List String → Item → Option Item
  | [], i => some i
  | n :: p, i => i.table?.bind fun t => (t.entries.find? n).bind (at? p)

def marks (i : Item) : View := fun p =>
  (i.at? p).map mark

/-- Nowhere in an item do two entries of one table have the same name, and where tables lie under one header there are
some. -/
structure Tidy (i : Item) : Prop where
  distinct : ∀ p t, (i.at? p).bind table? = some t → t.entries.Distinct
  filled : ∀ p items, i.at? p = some (.tables items) → ∃ info es rest, items = .table info es :: rest

variable {i : Item} {t : Table}

theorem marks_nil (i : Item) : i.marks [] = some i.mark :=
  rfl

theorem marks_cons (i : Item) (n : String) (p : List String) :
    i.marks (n :: p) = (i.table?.bind (·.entries.find? n)).bind (·.marks p) := by
  cases inner : i.table? with
  | none => simp [marks, at?, inner]
  | some t => cases found : t.entries.find? n <;> simp [marks, at?, inner, found]

theorem tidy_iff : i.Tidy ↔
    (∀ t, i.table? = some t → t.entries.Distinct ∧ ∀ n j, t.entries.find? n = some j → j.Tidy) ∧
      ∀ items, i = .tables items → ∃ info es rest, items = .table info es :: rest := by
  constructor
  · intro tidy
    refine ⟨fun t inner => ⟨tidy.distinct [] t inner, fun n j found => ⟨fun p => ?_, fun p => ?_⟩⟩, ?_⟩
    · simpa [at?, inner, found] using tidy.distinct (n :: p)
    · simpa [at?, inner, found] using tidy.filled (n :: p)
    · rintro items rfl
      exact tidy.filled [] items rfl
  · rintro ⟨inside, own⟩
    constructor <;> rintro (_ | ⟨n, p⟩) x given
    · exact (inside x given).1
    · rw [at?] at given
      cases inner : i.table? with
      | none => simp [inner] at given
      | some t =>
        cases found : t.entries.find? n with
        | none => simp [inner, found] at given
        | some j => exact ((inside t inner).2 n j found).distinct p x (by simpa [inner, found] using given)
    · exact own x (Option.some.inj given)
    · rw [at?] at given
      cases inner : i.table? with
      | none => simp [inner] at given
      | some t =>
        cases found : t.entries.find? n with
        | none => simp [inner, found] at given
        | some j => exact ((inside t inner).2 n j found).filled p x (by simpa [inner, found] using given)

theorem tidy_of_bare (bare : i.table? = none) (single : i.mark ≠ .tables) : i.Tidy := by
  refine tidy_iff.mpr ⟨fun t inner => ?_, ?_⟩
  · rw [bare] at inner
    contradiction
  · rintro items rfl
    exact absurd rfl single

end Item

namespace Table

def marks (t : Table) : View :=
  t.toItem.marks

def Tidy (t : Table) : Prop :=
  t.entries.Distinct ∧ ∀ n i, t.entries.find? n = some i → i.Tidy

variable {t t' u u' : Table} {i : Item}

theorem tidy_toItem : t.toItem.Tidy ↔ t.Tidy := by
  rw [Item.tidy_iff]
  constructor
  · rintro ⟨inside, -⟩
    exact inside t rfl
  · intro tidy
    refine ⟨?_, nofun⟩
    rintro t' ⟨⟩
    exact tidy

theorem marks_nil (t : Table) : t.marks [] = some .table :=
  rfl

theorem marks_cons (t : Table) (n : String) (p : List String) :
    t.marks (n :: p) = (t.entries.find? n).bind (·.marks p) := by
  rw [marks, Item.marks_cons]
  rfl

theorem marks_single (t : Table) (n : String) : t.marks [n] = (t.entries.find? n).map Item.mark := by
  rw [marks_cons]
  cases t.entries.find? n <;> rfl

/-- What is known about a table does not matter. -/
theorem marks_mk (t : Table) (info : TableInfo) : Table.marks ⟨info, t.entries⟩ = t.marks := by
  funext p
  cases p <;> rfl

theorem marks_put (t : Table) (k : Key) (i : Item) (n : String) (p : List String) :
    ({ t with entries := t.entries.put k i } : Table).marks (n :: p) =
      if k.name = n then i.marks p else t.marks (n :: p) := by
  rw [marks_cons, marks_cons, Entries.find?_put]
  split <;> rfl

theorem Tidy.put (tidy : t.Tidy) (k : Key) (item : i.Tidy) :
    ({ t with entries := t.entries.put k i } : Table).Tidy := by
  refine ⟨tidy.1.put k i, fun n j found => ?_⟩
  rw [Entries.find?_put] at found
  split at found
  · obtain rfl := Option.some.inj found
    exact item
  · exact tidy.2 n j found

theorem Tidy.erase (tidy : t.Tidy) (n : String) : ({ t with entries := t.entries.erase n } : Table).Tidy := by
  refine ⟨tidy.1.erase n, fun m j found => ?_⟩
  by_cases same : m = n
  · subst same
    rw [Entries.find?_erase_self] at found
    contradiction
  · rw [Entries.find?_erase _ same] at found
    exact tidy.2 m j found

theorem tidy_empty (info : TableInfo) : Tidy ⟨info, []⟩ :=
  ⟨List.nodup_nil, nofun⟩

/-- Through an item a path goes on as through the table in it. -/
theorem marks_of_table? (inner : i.table? = some t) (n : String) (p : List String) :
    i.marks (n :: p) = t.marks (n :: p) := by
  rw [Item.marks_cons, inner, marks_cons]
  rfl

theorem tidy_of_table? (inner : i.table? = some t) (tidy : i.Tidy) : t.Tidy :=
  (Item.tidy_iff.mp tidy).1 t inner

variable {α : Type} {f : Change α} {x : α}

theorem changeLast_spec {none : Problem} {items items' : List Item}
    (changed : changeLast f none items = .ok (x, items')) :
    ∃ u u', (Item.tables items).table? = some u ∧ f u = .ok (x, u') ∧ (Item.tables items').table? = some u' ∧
      ((Item.tables items).Tidy → u'.Tidy → (Item.tables items').Tidy) := by
  fun_induction changeLast f none items generalizing items' with
  | case1 => contradiction
  | case2 info es =>
    obtain ⟨⟨y, u'⟩, done, same⟩ := map_eq_ok.mp changed
    obtain ⟨rfl, rfl⟩ := Prod.mk.inj same
    refine ⟨⟨info, es⟩, u', rfl, done, rfl, fun _ tidy => Item.tidy_iff.mpr ⟨?_, ?_⟩⟩
    · rintro t ⟨⟩
      exact tidy
    · rintro items ⟨⟩
      exact ⟨_, _, [], rfl⟩
  | case3 i rest other ih =>
    obtain ⟨⟨y, rest'⟩, done, same⟩ := map_eq_ok.mp changed
    obtain ⟨rfl, rfl⟩ := Prod.mk.inj same
    obtain ⟨u, u', before, made, after, tidied⟩ := ih done
    have filled : rest ≠ [] := by rintro rfl; contradiction
    have filled' : rest' ≠ [] := by rintro rfl; contradiction
    have last {js : List Item} (filled : js ≠ []) : (Item.tables (i :: js)).table? = (Item.tables js).table? := by
      obtain ⟨j, js, rfl⟩ := List.exists_cons_of_ne_nil filled
      simp [Item.table?, List.getLast?_cons]
    refine ⟨u, u', (last filled).trans before, made, (last filled').trans after, fun tidy new => ?_⟩
    obtain ⟨inside, own⟩ := Item.tidy_iff.mp tidy
    refine Item.tidy_iff.mpr ⟨fun t inner => ?_, ?_⟩
    · rw [last filled', after] at inner
      obtain rfl := Option.some.inj inner
      exact new
    · rintro items ⟨⟩
      obtain ⟨info, es, js, head⟩ := own _ rfl
      obtain ⟨rfl, -⟩ := List.cons.inj head
      exact ⟨info, es, rest', rfl⟩

/-- A table in which the table to which a path leads was changed from `u` to `u'`. -/
structure Along (path : List String) (u u' t t' : Table) : Prop where
  before : ∀ n p, t.marks (path ++ n :: p) = u.marks (n :: p)
  after : ∀ n p, t'.marks (path ++ n :: p) = u'.marks (n :: p)
  other : ∀ p, (∀ n r, p ≠ path ++ n :: r) → t'.marks p = View.extend path t.marks p
  leads : ∀ p, p <+: path → Passes (t.marks p)
  tidy : t.Tidy → u.Tidy ∧ (u'.Tidy → t'.Tidy)

theorem Along.here (u u' : Table) : Along [] u u' u u' where
  before _ _ := rfl
  after _ _ := rfl
  other p apart := by
    cases p with
    | nil => rfl
    | cons n r => exact absurd rfl (apart n r)
  leads p above := by
    rw [List.prefix_nil.mp above]
    exact .inr (.inl rfl)
  tidy tidy := ⟨tidy, id⟩

section Through

variable {n : String} (inner : i.table? = some u)
  (before : t.entries.find? n = some i ∨ t.entries.find? n = none ∧ i.mark = .table ∧ u.entries = [])

include inner before

/-- A path goes on through an item of a table, or through a table that is not in it yet and has no entries. -/
theorem marks_through (m : String) (r : List String) : t.marks (n :: m :: r) = u.marks (m :: r) := by
  rw [marks_cons]
  rcases before with found | ⟨none, -, empty⟩
  · rw [found, Option.bind_some, marks_of_table? inner]
  · rw [none, marks_cons, empty]
    rfl

theorem passes_through : Passes (t.marks [n]) := by
  rw [marks_single]
  rcases before with found | ⟨none, -, -⟩
  · rw [found, Option.map_some]
    cases i with
    | scalar | array => contradiction
    | table => exact .inr (.inl rfl)
    | tables => exact .inr (.inr rfl)
  · rw [none]
    exact .inl rfl

theorem tidy_through (tidy : t.Tidy) : i.Tidy := by
  rcases before with found | ⟨-, table, empty⟩
  · exact tidy.2 _ _ found
  · refine Item.tidy_iff.mpr ⟨fun t inner' => ?_, ?_⟩
    · obtain rfl := Option.some.inj (inner.symm.trans inner')
      rw [empty]
      exact ⟨List.nodup_nil, nofun⟩
    · rintro items rfl
      contradiction

end Through

/-- One step of a path, through an item of the table or through a table that is made for it. -/
theorem Along.cons {path : List String} {v v' : Table} {item' : Item} (along : Along path u u' v v') (k : Key)
    (before : t.entries.find? k.name = some i ∨ t.entries.find? k.name = none ∧ i.mark = .table ∧ v.entries = [])
    (inner : i.table? = some v) (inner' : item'.table? = some v') (same : item'.mark = i.mark)
    (tidied : (i.Tidy → v'.Tidy → item'.Tidy)) :
    Along (k.name :: path) u u' t { t with entries := t.entries.put k item' } where
  before n p := by
    rw [← along.before n p, List.cons_append]
    obtain ⟨m, r, split⟩ : ∃ m r, path ++ n :: p = m :: r := by cases path <;> exact ⟨_, _, rfl⟩
    rw [split, marks_through inner before]
  after n p := by
    rw [← along.after n p, List.cons_append, marks_put, if_pos rfl]
    obtain ⟨m, r, split⟩ : ∃ m r, path ++ n :: p = m :: r := by cases path <;> exact ⟨_, _, rfl⟩
    rw [split, marks_of_table? inner']
  other p apart := by
    rcases p with _ | ⟨n, p⟩
    · rfl
    rw [marks_put]
    by_cases here : k.name = n
    · subst here
      have apart : ∀ n r, p ≠ path ++ n :: r := fun n r equal => apart n r (by rw [equal, List.cons_append])
      rw [if_pos rfl]
      rcases p with _ | ⟨m, r⟩
      · rw [View.extend_of_above (List.cons_prefix_cons.mpr ⟨rfl, List.nil_prefix⟩), Item.marks_nil, same, marks_cons]
        rcases before with found | ⟨none, table, -⟩
        · rw [found]
          rfl
        · rw [none, table]
          rfl
      · rw [marks_of_table? inner', along.other _ apart, View.extend, View.extend, ← marks_through inner before]
        simp only [List.cons_prefix_cons, true_and]
    · rw [if_neg here, View.extend_of_apart fun above => here (List.cons_prefix_cons.mp above).1.symm]
  leads p above := by
    rcases p with _ | ⟨n, p⟩
    · exact .inr (.inl rfl)
    obtain ⟨rfl, rest⟩ := List.cons_prefix_cons.mp above
    rcases p with _ | ⟨m, r⟩
    · exact passes_through inner before
    · rw [marks_through inner before]
      exact along.leads _ rest
  tidy tidy := by
    have item := tidy_through inner before tidy
    obtain ⟨old, new⟩ := along.tidy (tidy_of_table? inner item)
    exact ⟨old, fun tidy' => tidy.put k (tidied item (new tidy'))⟩

theorem exists_of_changeAt {dotted inline : Bool} {walked : List String} {path : List Key}
    (changed : changeAt dotted inline f walked path t = .ok (x, t')) :
    ∃ u u', f u = .ok (x, u') ∧ Along (names path) u u' t t' := by
  induction path generalizing walked t t' with
  | nil =>
    rw [changeAt] at changed
    exact ⟨t, t', changed, .here t t'⟩
  | cons k path ih =>
    rw [changeAt] at changed
    obtain ⟨⟨y, item'⟩, done, same⟩ := map_eq_ok.mp changed
    obtain ⟨rfl, rfl⟩ := Prod.mk.inj same
    generalize lookup : (t.entries.find? k.name).getD (.table { inline, implicit := true, dotted } []) = item at done
    have before {v : Table} (inner : item.table? = some v) : t.entries.find? k.name = some item ∨
        t.entries.find? k.name = none ∧ item.mark = .table ∧ v.entries = [] := by
      cases found : t.entries.find? k.name with
      | none =>
        rw [found] at lookup
        subst lookup
        obtain rfl := Option.some.inj inner
        exact .inr ⟨rfl, rfl, rfl⟩
      | some i =>
        rw [found] at lookup
        exact .inl (congrArg some lookup)
    cases item with
    | scalar | array => contradiction
    | table info es =>
      simp only at done
      split at done
      · contradiction
      split at done
      · contradiction
      obtain ⟨⟨y, v'⟩, inside, same⟩ := map_eq_ok.mp done
      obtain ⟨rfl, rfl⟩ := Prod.mk.inj same
      obtain ⟨u, u', made, along⟩ := ih inside
      exact ⟨u, u', made, along.cons k (before rfl) rfl rfl rfl fun _ tidy => tidy_toItem.mpr tidy⟩
    | tables items =>
      obtain ⟨⟨y, items'⟩, inside, same⟩ := map_eq_ok.mp done
      obtain ⟨rfl, rfl⟩ := Prod.mk.inj same
      obtain ⟨v, v', inner, inside, inner', tidied⟩ := changeLast_spec inside
      obtain ⟨u, u', made, along⟩ := ih inside
      exact ⟨u, u', made, along.cons k (before inner) inner inner' rfl tidied⟩

end Table

end CodeAudit.Toml
