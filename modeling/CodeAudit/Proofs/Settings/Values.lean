import CodeAudit.Proofs.Settings.Members

/-! The seven settings. Each has a name in one of two tables and a type, and its value is all that there is to it. It is
read from what stands in its table under its name, whatever else stands there. -/
namespace CodeAudit

open Toml

inductive AuditSetting where
  | verbose
  | logFile
  | cacheCapacity
  | reanalyze
deriving DecidableEq

namespace AuditSetting

def all : List AuditSetting :=
  [verbose, logFile, cacheCapacity, reanalyze]

def key : AuditSetting → String
  | verbose => "verbose"
  | logFile => "log_file"
  | cacheCapacity => "cache_capacity"
  | reanalyze => "reanalyze"

def type : AuditSetting → ValueType
  | verbose | reanalyze => .boolean
  | logFile => .text
  | cacheCapacity => .size

/-- The value of a setting; a file need not be given. -/
def value? : AuditSetting → AuditOptions → Option Scalar
  | verbose, o => some (.boolean o.verbose)
  | logFile, o => o.logFile.map .string
  | cacheCapacity, o => some (.integer o.cacheCapacity)
  | reanalyze, o => some (.boolean o.reanalyze)

end AuditSetting

inductive LimitSetting where
  | nestingDepth
  | conditionals
  | lineLength
deriving DecidableEq

namespace LimitSetting

def all : List LimitSetting :=
  [nestingDepth, conditionals, lineLength]

def key : LimitSetting → String
  | nestingDepth => "max_nesting_depth"
  | conditionals => "max_conditionals"
  | lineLength => "max_line_length"

def value? : LimitSetting → Thresholds → Option Scalar
  | nestingDepth, t => some (.integer t.maxNestingDepth)
  | conditionals, t => some (.integer t.maxConditionals)
  | lineLength, t => some (.integer t.maxLineLength)

end LimitSetting

theorem fields_audit : Fields Settings.auditMembers AuditSetting.key AuditSetting.value? fun x => Reads x.type where
  named := exists_of_lookup AuditSetting.all rfl
  own x := by
    cases x with
    | verbose =>
      refine ⟨_, rfl, readsType_boolean.own (fun (o : AuditOptions) b => { o with verbose := b }) AuditSetting.verbose
        (fun _ _ => rfl) fun y other o b => ?_⟩
      cases y <;> trivial
    | logFile =>
      refine ⟨_, rfl, readsType_text.own (fun (o : AuditOptions) s => { o with logFile := some s }) AuditSetting.logFile
        (fun _ _ => rfl) fun y other o b => ?_⟩
      cases y <;> trivial
    | cacheCapacity =>
      refine ⟨_, rfl, readsType_size.own (fun (o : AuditOptions) n => { o with cacheCapacity := n })
        AuditSetting.cacheCapacity (fun _ _ => rfl) fun y other o b => ?_⟩
      cases y <;> trivial
    | reanalyze =>
      refine ⟨_, rfl, readsType_boolean.own (fun (o : AuditOptions) b => { o with reanalyze := b })
        AuditSetting.reanalyze (fun _ _ => rfl) fun y other o b => ?_⟩
      cases y <;> trivial

theorem fields_limits :
    Fields Settings.thresholdMembers LimitSetting.key LimitSetting.value? fun _ => Reads .size where
  named := exists_of_lookup LimitSetting.all rfl
  own x := by
    cases x with
    | nestingDepth =>
      refine ⟨_, rfl, readsType_size.own (fun (t : Thresholds) n => { t with maxNestingDepth := n })
        LimitSetting.nestingDepth (fun _ _ => rfl) fun y other t n => ?_⟩
      cases y <;> trivial
    | conditionals =>
      refine ⟨_, rfl, readsType_size.own (fun (t : Thresholds) n => { t with maxConditionals := n })
        LimitSetting.conditionals (fun _ _ => rfl) fun y other t n => ?_⟩
      cases y <;> trivial
    | lineLength =>
      refine ⟨_, rfl, readsType_size.own (fun (t : Thresholds) n => { t with maxLineLength := n })
        LimitSetting.lineLength (fun _ _ => rfl) fun y other t n => ?_⟩
      cases y <;> trivial

/-- The two tables in which the settings are. -/
inductive Section where
  | audit
  | thresholds
deriving DecidableEq

namespace Section

def all : List Section :=
  [audit, thresholds]

theorem mem_all (a : Section) : a ∈ all := by
  cases a <;> decide

def key : Section → String
  | audit => "audit"
  | thresholds => "thresholds"

def Record : Section → Type
  | audit => AuditOptions
  | thresholds => Thresholds

def record : (a : Section) → Settings → a.Record
  | audit => Settings.audit
  | thresholds => Settings.thresholds

/-- A table is read by itself. -/
def Reads : (a : Section) → Item → a.Record → Prop
  | audit, i, o => Settings.readAudit i = .ok o
  | thresholds, i, t => Settings.readThresholds i = .ok t

end Section

theorem fields_sections : Fields Settings.members Section.key Section.record Section.Reads where
  named := exists_of_lookup Section.all rfl
  own a := by
    cases a with
    | audit =>
      refine ⟨_, rfl, fun s i s' given => ?_, fun s i o read => ⟨{ s with audit := o }, bind_eq_ok.mpr ⟨o, read, rfl⟩⟩⟩
      obtain ⟨o, read, same⟩ := bind_eq_ok.mp given
      obtain rfl := Except.ok.inj same
      refine ⟨read, fun b other => ?_⟩
      cases b <;> trivial
    | thresholds =>
      refine ⟨_, rfl, fun s i s' given => ?_, fun s i t read =>
        ⟨{ s with thresholds := t }, bind_eq_ok.mpr ⟨t, read, rfl⟩⟩⟩
      obtain ⟨t, read, same⟩ := bind_eq_ok.mp given
      obtain rfl := Except.ok.inj same
      refine ⟨read, fun b other => ?_⟩
      cases b <;> trivial

inductive Setting where
  | audit (x : AuditSetting)
  | limit (x : LimitSetting)
deriving DecidableEq

namespace Setting

def all : List Setting :=
  AuditSetting.all.map audit ++ LimitSetting.all.map limit

theorem mem_all (x : Setting) : x ∈ all := by
  rcases x with x | x <;> cases x <;> decide

def table : Setting → Section
  | audit _ => .audit
  | limit _ => .thresholds

def key : Setting → String
  | audit x => x.key
  | limit x => x.key

/-- The path under which a setting is written. -/
def path (x : Setting) : List String :=
  [x.table.key, x.key]

def type : Setting → ValueType
  | audit x => x.type
  | limit _ => .size

def value? : Setting → Settings → Option Scalar
  | audit x, s => x.value? s.audit
  | limit x, s => x.value? s.thresholds

/-- Settings are what their values are. -/
theorem eq_of_value? {s s' : Settings} (same : ∀ x : Setting, x.value? s' = x.value? s) : s' = s := by
  have word {m n : Nat} (same : some (Scalar.integer m) = some (.integer n)) : m = n :=
    Int.ofNat.inj (Scalar.integer.inj (Option.some.inj same))
  have flag {b c : Bool} (same : some (Scalar.boolean b) = some (.boolean c)) : b = c :=
    Scalar.boolean.inj (Option.some.inj same)
  obtain ⟨⟨verbose, file, capacity, reanalyze⟩, depth, conditionals, length⟩ := s
  obtain ⟨⟨verbose', file', capacity', reanalyze'⟩, depth', conditionals', length'⟩ := s'
  obtain rfl : verbose' = verbose := flag (same (.audit .verbose))
  obtain rfl : file' = file := Option.map_injective (fun _ _ => Scalar.string.inj) (same (.audit .logFile))
  obtain rfl : capacity' = capacity := word (same (.audit .cacheCapacity))
  obtain rfl : reanalyze' = reanalyze := flag (same (.audit .reanalyze))
  obtain rfl : depth' = depth := word (same (.limit .nestingDepth))
  obtain rfl : conditionals' = conditionals := word (same (.limit .conditionals))
  obtain rfl : length' = length := word (same (.limit .lineLength))
  rfl

end Setting

/-! ### Settings out of a table -/

variable {t : Table} {s : Settings} {x : Setting}

section

variable {α ι : Type} {members : Members α} {key : ι → String} {get : ι → α → Option Scalar} {type : ι → ValueType}
  {name n : String} {record r : α}

/-- A record out of the entry of a table, or without one if that is missing. -/
theorem Toml.Fields.get_of_entry (fields : Fields members key get fun x => Toml.Reads (type x)) (tidy : t.Tidy)
    (single : ∀ m, t.marks [n] = some m → m = .table)
    (given : ∀ i, t.entries.find? n = some i → readRecord name members record i = .ok r)
    (missing : t.entries.find? n = none → r = record) (x : ι) :
    (∀ m, t.marks [n, key x] = some m → ∃ v, m = .scalar v ∧ (type x).takes v ∧ get x r = some v) ∧
      (t.marks [n, key x] = none → get x r = get x record) := by
  rw [Table.marks_single] at single
  rw [Table.marks_cons]
  cases found : t.entries.find? n with
  | none =>
    rw [missing found]
    exact ⟨nofun, fun _ => rfl⟩
  | some i =>
    rw [found] at single
    exact fields.get_of_readRecord (tidy.2 n i found) (single _ rfl) (given i found) x

theorem Toml.Fields.exists_of_entry (fields : Fields members key get fun x => Toml.Reads (type x)) (tidy : t.Tidy)
    (single : ∀ m, t.marks [n] = some m → m = .table)
    (suited : ∀ x m, t.marks [n, key x] = some m → ∃ v, m = .scalar v ∧ (type x).takes v) (i : Item)
    (found : t.entries.find? n = some i) : ∃ r, readRecord name members record i = .ok r := by
  refine fields.exists_readRecord (tidy.2 n i found) (single _ ?_) fun x m given => suited x m ?_
  · rw [Table.marks_single, found]
    rfl
  · rw [Table.marks_cons, found]
    exact given

end

/-- Neither of the two tables is read from several tables under one header. -/
theorem marks_ne_tables (tidy : t.Tidy) (read : Settings.ofItem t.toItem = .ok s) (a : Section) :
    t.marks [a.key] ≠ some .tables := by
  intro tables
  rw [Table.marks_single] at tables
  obtain ⟨i, found, mark⟩ := Option.map_eq_some_iff.mp tables
  have own := (fields_sections.get_of_foldlM tidy.1 (readRecord_table.mp read) a).1 i found
  have tidy := tidy.2 _ i found
  cases a with
  | audit => exact fields_audit.readRecord_ne_of_tables nofun tidy mark own
  | thresholds => exact fields_limits.readRecord_ne_of_tables nofun tidy mark own

/-- Where there are only single tables, each setting has the value that stands at its path, or its default. -/
theorem value?_of_ofItem (tidy : t.Tidy) (read : Settings.ofItem t.toItem = .ok s)
    (single : ∀ m, t.marks [x.table.key] = some m → m = .table) :
    (∀ m, t.marks x.path = some m → ∃ v, m = .scalar v ∧ x.type.takes v ∧ x.value? s = some v) ∧
      (t.marks x.path = none → x.value? s = x.value? {}) := by
  obtain ⟨given, missing⟩ := fields_sections.get_of_foldlM tidy.1 (readRecord_table.mp read) x.table
  cases x with
  | audit x => exact fields_audit.get_of_entry tidy single given missing x
  | limit x => exact fields_limits.get_of_entry tidy single given missing x

theorem exists_ofItem (tidy : t.Tidy) (single : ∀ a : Section, ∀ m, t.marks [a.key] = some m → m = .table)
    (suited : ∀ (x : Setting) m, t.marks x.path = some m → ∃ v, m = .scalar v ∧ x.type.takes v) :
    ∃ s, Settings.ofItem t.toItem = .ok s := by
  refine (fields_sections.exists_foldlM tidy.1 (fun a i found => ?_) {}).imp fun s => readRecord_table.mpr
  cases a with
  | audit => exact fields_audit.exists_of_entry tidy (single .audit) (fun x => suited (.audit x)) i found
  | thresholds => exact fields_limits.exists_of_entry tidy (single .thresholds) (fun x => suited (.limit x)) i found

end CodeAudit
