import CodeAudit.Proofs.Settings.Values
import CodeAudit.Proofs.Toml.Plain
import CodeAudit.Proofs.Toml.Standing
import CodeAudit.Proofs.Toml.Statements
import CodeAudit.Settings.Load

/-! Settings as a text gives them. Each of the seven settings has the value that is written for it, or its default if
nothing is; the text is refused if anything else is written for one of them or if one is written twice. -/
namespace CodeAudit

open Toml

variable {t : Table} {s : Settings} {x : Setting}

/-- The value that is written, if it is a single one. -/
def Toml.Write.scalar? (w : Write) : Option Scalar :=
  match w.content with
  | .item (.scalar v _) => some v
  | _ => none

theorem Toml.Write.scalar?_eq_some {w : Write} {v : Scalar} : w.scalar? = some v ↔ w.content.mark = .scalar v := by
  obtain ⟨path, repeated | _ | i⟩ := w
  · cases repeated <;> simp [scalar?, Content.mark]
  · simp [scalar?, Content.mark]
  · cases i <;> simp [scalar?, Content.mark, Item.mark]

namespace Setting

/-- What is written gives a setting a value of its type. -/
def suits (x : Setting) (w : Write) : Bool :=
  w.path = x.path && w.scalar?.any x.type.takes

/-- Something else than a value of its type is written for a setting. -/
def Misused (x : Setting) (ws : List Write) : Prop :=
  ∃ w ∈ ws, x.path <+: w.path ∧ ¬ x.suits w

instance (x : Setting) (ws : List Write) : Decidable (x.Misused ws) :=
  inferInstanceAs (Decidable (∃ w ∈ ws, _))

/-- The value that is written for a setting. -/
def given? (x : Setting) (ws : List Write) : Option Scalar :=
  (ws.find? (·.path = x.path)).bind Write.scalar?

end Setting

/-- The settings are in tables, and nothing but values of their types is written for them. -/
structure Orderly (ws : List Write) : Prop where
  tables : ∀ w ∈ ws, ∀ a : Section, w.path = [a.key] → w.content.isTable
  suited : ∀ x : Setting, ¬ x.Misused ws

instance (ws : List Write) : Decidable (Orderly ws) :=
  decidable_of_iff ((∀ w ∈ ws, ∀ a ∈ Section.all, w.path = [a.key] → w.content.isTable) ∧
      ∀ x ∈ Setting.all, ¬ x.Misused ws)
    ⟨fun ⟨tables, suited⟩ => ⟨fun w member a => tables w member a a.mem_all, fun x => suited x x.mem_all⟩,
      fun ⟨tables, suited⟩ => ⟨fun w member a _ => tables w member a, fun x _ => suited x⟩⟩

variable {ws : List Write} {w : Write} {v : View}

theorem Setting.suits_iff : x.suits w ↔ w.path = x.path ∧ ∃ v, w.content.mark = .scalar v ∧ x.type.takes v := by
  simp [suits, Option.any_eq_true, Write.scalar?_eq_some]

theorem Toml.Run.path_ne_nil {u : View} (run : Run u ws v) (member : w ∈ ws) : w.path ≠ [] := by
  obtain ⟨_, _, _, -, -, fits, -⟩ := run.exists_of_mem member
  exact fits.somewhere

theorem of_prefix_pair {q : List String} {n m : String} (above : q <+: [n, m]) : q = [] ∨ q = [n] ∨ q = [n, m] := by
  rcases List.prefix_cons_iff.mp above with rfl | ⟨r, rfl, rest⟩
  · exact .inl rfl
  · rcases List.prefix_cons_iff.mp rest with rfl | ⟨r, rfl, none⟩
    · exact .inr (.inl rfl)
    · rw [List.prefix_nil.mp none]
      exact .inr (.inr rfl)

theorem direct_pair {n m : String} (top : v [] = some .table) (single : v [n] ≠ some .tables) : v.Direct [n, m] := by
  intro q above proper
  rcases of_prefix_pair above with rfl | rfl | rfl
  · rw [top]
    nofun
  · exact single
  · exact absurd rfl proper

namespace Orderly

theorem suits_of_mem (orderly : Orderly ws) (member : w ∈ ws) (above : x.path <+: w.path) : x.suits w := by
  by_contra other
  exact orderly.suited x ⟨w, member, above, other⟩

/-- The first that is written for a setting gives it a value of its type. -/
theorem of_find? (orderly : Orderly ws) (found : ws.find? (·.path = x.path) = some w) :
    w ∈ ws ∧ w.path = x.path ∧ ∃ v, w.content.mark = .scalar v ∧ x.type.takes v := by
  have member := List.mem_of_find?_eq_some found
  have here : w.path = x.path := by simpa using List.find?_some found
  exact ⟨member, Setting.suits_iff.mp (orderly.suits_of_mem member (here ▸ List.prefix_rfl))⟩

theorem takes_of_given? (orderly : Orderly ws) {v : Scalar} (given : x.given? ws = some v) : x.type.takes v := by
  obtain ⟨w, found, value⟩ := Option.bind_eq_some_iff.mp given
  obtain ⟨-, -, v', mark, takes⟩ := orderly.of_find? found
  rw [Write.scalar?_eq_some.mpr mark] at value
  exact Option.some.inj value ▸ takes

/-- The tables of the settings are single. -/
theorem single (orderly : Orderly ws) (run : Run (View.leaf .table) ws v) (a : Section) :
    ∀ m, v [a.key] = some m → m = .table := by
  refine run.eq_table (fun w member above => ?_) nofun
  rcases List.prefix_cons_iff.mp above with none | ⟨r, same, rest⟩
  · exact absurd none (run.path_ne_nil member)
  · exact orderly.tables w member a (by rw [same, List.prefix_nil.mp rest])

/-- At the path of each setting there is what is given for it. -/
theorem mark_path (orderly : Orderly ws) (run : Run (View.leaf .table) ws t.marks) (x : Setting) :
    t.marks x.path = (x.given? ws).map .scalar := by
  rw [Setting.given?]
  cases found : ws.find? (·.path = x.path) with
  | some w =>
    obtain ⟨member, here, v, mark, -⟩ := orderly.of_find? found
    have direct : t.marks.Direct x.path :=
      direct_pair (Table.marks_nil t) fun tables => nomatch orderly.single run x.table _ tables
    rw [← here, run.mark_of_mem member (here ▸ direct), mark]
    simp [Write.scalar?_eq_some.mpr mark]
  | none =>
    have absent : ∀ w ∈ ws, w.path ≠ x.path := by simpa using found
    refine run.eq_of_untouched (fun w member above => ?_) fun w member above => ?_
    · exact absent w member (Setting.suits_iff.mp (orderly.suits_of_mem member above)).1
    · rcases of_prefix_pair above with none | table | same
      · exact absurd none (run.path_ne_nil member)
      · exact orderly.tables w member _ table
      · exact absurd same (absent w member)

/-- An orderly document makes settings, with what is given in it and with defaults for the rest. -/
theorem exists_settings (orderly : Orderly ws) (run : Run (View.leaf .table) ws t.marks) (tidy : t.Tidy) :
    ∃ s, Settings.ofItem t.toItem = .ok s ∧ ∀ x : Setting, x.value? s = (x.given? ws).or (x.value? {}) := by
  obtain ⟨s, made⟩ := exists_ofItem tidy (orderly.single run) fun x m there => by
    rw [orderly.mark_path run x] at there
    obtain ⟨v, given, same⟩ := Option.map_eq_some_iff.mp there
    exact ⟨v, same.symm, orderly.takes_of_given? given⟩
  refine ⟨s, made, fun x => ?_⟩
  obtain ⟨own, default⟩ := value?_of_ofItem (x := x) tidy made (orderly.single run x.table)
  rw [orderly.mark_path run x] at own default
  cases given : x.given? ws with
  | none => exact default (by rw [given]; rfl)
  | some v =>
    obtain ⟨v', same, -, value⟩ := own (.scalar v) (by rw [given]; rfl)
    obtain rfl := Mark.scalar.inj same
    exact value

end Orderly

/-- What is written where a setting is read is a single value of its type, and it is written once. -/
theorem suits_of_ofItem (run : Run (View.leaf .table) ws t.marks) (tidy : t.Tidy)
    (read : Settings.ofItem t.toItem = .ok s) (x : Setting) :
    ¬ x.Misused ws ∧ ws.countP (·.path = x.path) ≤ 1 := by
  have direct : t.marks.Direct x.path := direct_pair (Table.marks_nil t) (marks_ne_tables tidy read x.table)
  have above : [x.table.key] <+: x.path := List.prefix_append [x.table.key] [x.key]
  have typed {w : Write} (member : w ∈ ws) (below : x.path <+: w.path) {m : Mark} (there : t.marks x.path = some m) :
      ∃ v, m = .scalar v ∧ x.type.takes v := by
    have proper : [x.table.key] ≠ w.path := fun same => by
      have short := below.length_le
      rw [← same] at short
      exact absurd short (by simp [Setting.path])
    have table := (run.passes_of_mem member (above.trans below) proper (direct.above above)).resolve_right
      (marks_ne_tables tidy read x.table)
    obtain ⟨v, same, takes, -⟩ := (value?_of_ofItem tidy read fun m there =>
      Option.some.inj (there.symm.trans table)).1 m there
    exact ⟨v, same, takes⟩
  have suited {w : Write} (member : w ∈ ws) (below : x.path <+: w.path) : x.suits w := by
    by_cases here : w.path = x.path
    · exact Setting.suits_iff.mpr ⟨here, typed member below (here ▸ run.mark_of_mem member (here ▸ direct))⟩
    · rcases run.passes_of_mem member below (Ne.symm here) direct with table | tables
      · obtain ⟨v, same, -⟩ := typed member below table
        contradiction
      · obtain ⟨v, same, -⟩ := typed member below tables
        contradiction
  refine ⟨fun ⟨w, member, below, other⟩ => other (suited member below), run.countP_le_one direct ?_⟩
  intro w member here repeated header
  obtain ⟨-, v, mark, -⟩ := Setting.suits_iff.mp (suited member (here ▸ List.prefix_rfl))
  rw [header] at mark
  cases repeated <;> contradiction

theorem Settings.parse_eq_ok {text : List Char} :
    Settings.parse text = .ok s ↔ ∃ t, Toml.parse text = .ok t ∧ Settings.ofItem t.toItem = .ok s :=
  bind_eq_ok.trans (exists_congr fun _ => and_congr_right fun _ => mapError_eq_ok)

theorem Settings.ofText_eq_error {text : List Char} {path : String} {fault : Fault} :
    Settings.ofText path text = .error (.settings fault path) ↔ Settings.parse text = .error fault := by
  rw [ofText]
  cases Settings.parse text with
  | ok s => exact ⟨nofun, nofun⟩
  | error other =>
    change Except.error (Failure.settings other path) = .error (.settings fault path) ↔ _
    simp

theorem Settings.exists_ofText_eq_error {text : List Char} (path : String)
    (refused : ∀ s, Settings.parse text ≠ .ok s) :
    ∃ fault, Settings.ofText path text = .error (.settings fault path) := by
  cases made : Settings.parse text with
  | ok s => exact absurd made (refused s)
  | error fault => exact ⟨fault, ofText_eq_error.mpr made⟩

section

variable {text : List Char} {sts : List Statement}

/-- An orderly text that is a document makes settings, as what is plain always does. -/
theorem parse_of_orderly (said : statements text = .ok sts) (orderly : Orderly (writes sts))
    (whole : Plain sts ∨ ∃ t, Toml.parse text = .ok t) : ∃ s, Settings.parse text = .ok s ∧
      ∀ x : Setting, x.value? s = (x.given? (writes sts)).or (x.value? {}) := by
  obtain ⟨t, built⟩ : ∃ t, build sts = .ok t := by
    rcases whole with plain | ⟨t, parsed⟩
    · exact exists_build_of_plain plain
    · obtain ⟨sts', said', built⟩ := parse_eq_ok.mp parsed
      obtain rfl := Except.ok.inj (said'.symm.trans said)
      exact ⟨t, built⟩
  obtain ⟨run, tidy⟩ := run_of_build (tidy_of_statements said) built
  obtain ⟨s, made, values⟩ := orderly.exists_settings run tidy
  exact ⟨s, Settings.parse_eq_ok.mpr ⟨t, parse_eq_ok.mpr ⟨sts, said, built⟩, made⟩, values⟩

/-- In a text that makes settings nothing is wrong with any of them. -/
theorem suits_of_parse (said : statements text = .ok sts) (parsed : Settings.parse text = .ok s) (x : Setting) :
    ¬ x.Misused (writes sts) ∧ (writes sts).countP (·.path = x.path) ≤ 1 := by
  obtain ⟨t, parsed, made⟩ := Settings.parse_eq_ok.mp parsed
  obtain ⟨sts', said', built⟩ := parse_eq_ok.mp parsed
  obtain rfl := Except.ok.inj (said'.symm.trans said)
  obtain ⟨run, tidy⟩ := run_of_build (tidy_of_statements said) built
  exact suits_of_ofItem run tidy made x

end

/-- A text makes the settings that are given in it, with defaults for all others, wherever and in whatever order they
are given and whatever else is in the text. It is refused if one of them has a value of another type or is given twice.
A file is what its text is, except for its path. -/
theorem settings_of_text (text : String) :
    (∀ sts, statements text.toList = .ok sts →
      (Orderly (writes sts) → (Plain sts ∨ ∃ t, Toml.parse text.toList = .ok t) →
        ∃ s, Settings.inline text = .ok s ∧
          ∀ s', s' = s ↔ ∀ x : Setting, x.value? s' = (x.given? (writes sts)).or (x.value? {})) ∧
      ∀ x : Setting, x.Misused (writes sts) ∨ 2 ≤ (writes sts).countP (·.path = x.path) →
        ∃ fault, Settings.inline text = .error (.settings fault Failure.inlinePath)) ∧
    (∀ stop, statements text.toList = .error stop →
      ∃ fault, Settings.inline text = .error (.settings fault Failure.inlinePath)) ∧
    ∀ (read : ReadFile) path, read path = .ok text.toList →
      (∀ s, Settings.ofFile read path = .ok s ↔ Settings.inline text = .ok s) ∧
      ∀ fault, Settings.ofFile read path = .error (.settings fault path) ↔
        Settings.inline text = .error (.settings fault Failure.inlinePath) := by
  refine ⟨fun sts said => ⟨fun orderly whole => ?_, fun x wrong => ?_⟩, fun stop unread => ?_,
    fun read path there => ?_⟩
  · obtain ⟨s, parsed, values⟩ := parse_of_orderly said orderly whole
    refine ⟨s, mapError_eq_ok.mpr parsed, fun s' => ⟨?_, fun same => Setting.eq_of_value? fun x => ?_⟩⟩
    · rintro rfl
      exact values
    · rw [same x, values x]
  · refine Settings.exists_ofText_eq_error _ fun s parsed => ?_
    obtain ⟨used, once⟩ := suits_of_parse said parsed x
    rcases wrong with misused | twice
    · exact used misused
    · omega
  · refine Settings.exists_ofText_eq_error _ fun s parsed => ?_
    obtain ⟨t, parsed, -⟩ := Settings.parse_eq_ok.mp parsed
    obtain ⟨sts, said, -⟩ := parse_eq_ok.mp parsed
    rw [unread] at said
    contradiction
  · simp only [Settings.ofFile, there, Settings.inline]
    exact ⟨fun s => mapError_eq_ok.trans mapError_eq_ok.symm,
      fun fault => Settings.ofText_eq_error.trans Settings.ofText_eq_error.symm⟩

/-- Settings in both tables with unknown keys and another table in between, one of them under a dotted key; a number
for a switch, in braces; and a second value for a limit. -/
theorem settings_of_mixed_texts :
    let mixed := "note = 1\nthresholds.max_line_length = 100\n[extra]\naudit = true\n[audit]\nlog_file = 'a b'\n"
    let switch := "audit = \x7b verbose = 1 \x7d\n"
    let twice := "[thresholds]\nmax_line_length = 80\nmax_conditionals = 4\nmax_line_length = 100\n"
    (∃ sts, statements mixed.toList = .ok sts ∧ Orderly (writes sts) ∧ (∃ t, Toml.parse mixed.toList = .ok t) ∧
      Settings.inline mixed = .ok { audit := { logFile := some "a b" }, thresholds := { maxLineLength := 100 } }) ∧
    (∃ sts, statements switch.toList = .ok sts ∧ Setting.Misused (.audit .verbose) (writes sts) ∧
      ∃ fault, Settings.inline switch = .error (.settings fault Failure.inlinePath)) ∧
    ∃ sts, statements twice.toList = .ok sts ∧
      2 ≤ (writes sts).countP (·.path = Setting.path (.limit .lineLength)) ∧
      ∃ fault, Settings.ofFile (fun _ => .ok twice.toList) "a" = .error (.settings fault "a") := by
  intro mixed switch twice
  refine ⟨?_, ?_, ?_⟩
  · let expected : Settings := { audit := { logFile := some "a b" }, thresholds := { maxLineLength := 100 } }
    obtain ⟨sts, said, known⟩ : ∃ sts, statements mixed.toList = .ok sts ∧ decide (Orderly (writes sts) ∧
        ∀ x ∈ Setting.all, x.value? expected = (x.given? (writes sts)).or (x.value? {})) :=
      exists_ok_of_toOption (by subst expected mixed; decide +kernel)
    obtain ⟨orderly, values⟩ := of_decide_eq_true known
    obtain ⟨t, parsed, -⟩ : ∃ t, Toml.parse mixed.toList = .ok t ∧ true :=
      exists_ok_of_toOption (by subst mixed; decide +kernel)
    obtain ⟨s, made, only⟩ := ((settings_of_text mixed).1 sts said).1 orderly (.inr ⟨t, parsed⟩)
    obtain rfl := (only expected).mpr fun x => values x x.mem_all
    exact ⟨sts, said, orderly, ⟨t, parsed⟩, made⟩
  · obtain ⟨sts, said, known⟩ : ∃ sts, statements switch.toList = .ok sts ∧
        decide (Setting.Misused (.audit .verbose) (writes sts)) :=
      exists_ok_of_toOption (by subst switch; decide +kernel)
    have misused := of_decide_eq_true known
    exact ⟨sts, said, misused, ((settings_of_text switch).1 sts said).2 _ (.inl misused)⟩
  · obtain ⟨sts, said, known⟩ : ∃ sts, statements twice.toList = .ok sts ∧
        decide (2 ≤ (writes sts).countP (·.path = Setting.path (.limit .lineLength))) :=
      exists_ok_of_toOption (by subst twice; decide +kernel)
    have again := of_decide_eq_true known
    obtain ⟨fault, refused⟩ := ((settings_of_text twice).1 sts said).2 _ (.inr again)
    exact ⟨sts, said, again, fault, ((settings_of_text twice).2.2 _ "a" rfl).2 fault |>.mpr refused⟩

end CodeAudit
