import CodeAudit.Proofs.Toml.Writes

/-! Plain documents: sections under single names, with an entry for each of several names, and no name twice in one
place. Every plain document makes a table, whatever the names are and in whatever order they come. -/
namespace CodeAudit.Toml

/-- A header with one name that is not repeated, or an entry under one name whose value is not in braces. -/
def Statement.Simple : Statement → Prop
  | .header path repeated _ => (∃ k, path = [k]) ∧ repeated = false
  | .entry path value => (∃ k, path = [k]) ∧ ∃ i, value = .item i

/-- Nothing is written twice at a path. -/
structure Plain (sts : List Statement) : Prop where
  simple : ∀ st ∈ sts, st.Simple
  once : ((writes sts).map Write.path).Nodup

theorem Entries.mem_names_put {es : Entries} {k : Key} {i : Item} {n : String}
    (member : n ∈ (es.put k i).map (·.1.name)) : n = k.name ∨ n ∈ es.map (·.1.name) := by
  rcases names_put es k i with kept | ⟨-, behind⟩
  · exact .inr (kept ▸ member)
  · rw [behind, List.mem_append, List.mem_singleton] at member
    exact member.symm

/-- A single key that is new to a table. -/
theorem Table.insertAt_nil {inline : Bool} {taken : String → Problem} {k : Key} {i : Item} {t : Table}
    (undotted : t.info.dotted = false) (free : t.entries.find? k.name = none) :
    t.insertAt inline taken [] k i = .ok { t with entries := t.entries.put k i } := by
  rw [insertAt, changeAt, undotted, free]
  rfl

namespace State

/-- The names in the table of a document, that of the last header included. -/
def topNames (s : State) : List String :=
  match s.header with
  | none => s.current.entries.map (·.1.name)
  | some h => h.key.name :: s.root.entries.map (·.1.name)

/-- A plain document can go on with the given paths. -/
structure Ready (s : State) (paths : List (List String)) : Prop where
  undotted : s.current.info.dotted = false
  header : ∀ h, s.header = some h → h.path = [] ∧ h.repeated = false ∧ s.root.entries.find? h.key.name = none
  here : ∀ n ∈ s.current.entries.map (·.1.name), s.under ++ [n] ∉ paths
  top : ∀ n ∈ s.topNames, [n] ∉ paths

variable {s : State} {paths : List (List String)}

theorem close_of_ready (ready : s.Ready paths) :
    ∃ t, s.close = .ok t ∧ ∀ n ∈ t.entries.map (·.1.name), n ∈ s.topNames := by
  rw [close]
  cases header : s.header with
  | none => exact ⟨s.current, rfl, fun n member => by simpa [topNames, header] using member⟩
  | some h =>
    obtain ⟨path, single, free⟩ := ready.header h header
    refine ⟨{ s.root with entries := s.root.entries.put h.key s.current.toItem }, ?_, fun n member => ?_⟩
    · simp only [path, Table.changeAt, free, single]
      rfl
    · rw [topNames, header]
      exact List.mem_cons.mpr (Entries.mem_names_put member)

theorem onHeader_of_ready {k : Key} {span : Span} (ready : s.Ready ([k.name] :: paths))
    (once : [k.name] ∉ paths) :
    ∃ s', s.onHeader ⟨[], k, false⟩ span = .ok s' ∧ s'.under = [k.name] ∧ s'.Ready paths := by
  obtain ⟨t, closed, known⟩ := close_of_ready ready
  have free : t.entries.find? k.name = none := by
    rw [Entries.find?_eq_none_iff]
    exact fun member => ready.top _ (known _ member) (List.mem_cons_self ..)
  have opens : t.changeAt false false (opened ⟨[], k, false⟩) [] [] = .ok ([], t) := by
    rw [Table.changeAt, opened, free]
  refine ⟨{ root := t, current := ⟨{ span := some span }, []⟩, header := some ⟨[], k, false⟩ }, ?_, rfl, rfl,
    ?_, ?_, ?_⟩
  · rw [onHeader, closed, ok_bind, opens]
    rfl
  · rintro h ⟨⟩
    exact ⟨rfl, rfl, free⟩
  · simp
  · intro n member
    rcases List.mem_cons.mp member with rfl | member
    · exact once
    · exact fun later => ready.top n (known n member) (List.mem_cons_of_mem _ later)

theorem onKeyAndValue_of_ready {k : Key} {i : Item} (ready : s.Ready ((s.under ++ [k.name]) :: paths))
    (once : s.under ++ [k.name] ∉ paths) :
    ∃ s', s.onKeyAndValue [k] i = .ok s' ∧ s'.under = s.under ∧ s'.Ready paths := by
  have free : s.current.entries.find? k.name = none := by
    rw [Entries.find?_eq_none_iff]
    exact fun member => ready.here _ member (List.mem_cons_self ..)
  obtain ⟨span, inserted⟩ : ∃ span, s.onKeyAndValue [k] i =
      .ok { s with current := ⟨{ s.current.info with span }, s.current.entries.put k i⟩ } := by
    rw [onKeyAndValue]
    simp only [List.getLast?_singleton, List.dropLast_singleton]
    rw [Table.insertAt_nil]
    · exact ⟨_, rfl⟩
    · exact ready.undotted
    · exact free
  have here (n : String) (member : n ∈ (s.current.entries.put k i).map (·.1.name)) : s.under ++ [n] ∉ paths := by
    rcases Entries.mem_names_put member with rfl | member
    · exact once
    · exact fun later => ready.here n member (List.mem_cons_of_mem _ later)
  refine ⟨_, inserted, rfl, ready.undotted, ready.header, here, fun n member => ?_⟩
  cases header : s.header with
  | none =>
    have top : s.under = [] := by rw [under, header]; rfl
    rw [top] at here
    exact here n (by simpa [topNames, header] using member)
  | some h =>
    have member : n ∈ s.topNames := by simpa [topNames, header] using member
    exact fun later => ready.top n member (List.mem_cons_of_mem _ later)

theorem foldlM_of_ready {sts : List Statement} (simple : ∀ st ∈ sts, st.Simple)
    (once : ((writesUnder s.under sts).map Write.path).Nodup)
    (ready : s.Ready ((writesUnder s.under sts).map Write.path)) :
    ∃ s', sts.foldlM Statement.apply s = .ok s' ∧ s'.Ready [] := by
  induction sts generalizing s with
  | nil => exact ⟨s, rfl, ready⟩
  | cons st sts ih =>
    obtain ⟨first, others⟩ := List.forall_mem_cons.mp simple
    have next {s₁ : State} (applied : st.apply s = .ok s₁)
        (rest : ∃ s', sts.foldlM Statement.apply s₁ = .ok s' ∧ s'.Ready []) :
        ∃ s', (st :: sts).foldlM Statement.apply s = .ok s' ∧ s'.Ready [] := by
      rw [List.foldlM_cons, applied]
      exact rest
    cases st with
    | header path repeated span =>
      obtain ⟨⟨k, rfl⟩, rfl⟩ := first
      obtain ⟨new, once⟩ := List.nodup_cons.mp once
      obtain ⟨s₁, applied, under, ready⟩ := onHeader_of_ready ready new
      have under : s₁.under = names [k] := under
      rw [← under] at once ready
      exact next applied (ih others once ready)
    | entry path value =>
      obtain ⟨⟨k, rfl⟩, i, rfl⟩ := first
      obtain ⟨new, once⟩ := List.nodup_cons.mp once
      obtain ⟨s₁, applied, under, ready⟩ := onKeyAndValue_of_ready ready new
      rw [← under] at once ready
      exact next applied (ih others once ready)

end State

/-- Every plain document makes a table. -/
theorem exists_build_of_plain {sts : List Statement} (plain : Plain sts) : ∃ t, build sts = .ok t := by
  have ready : State.Ready {} ((writes sts).map Write.path) := ⟨rfl, nofun, by simp, by simp [State.topNames]⟩
  obtain ⟨s, done, ready⟩ := State.foldlM_of_ready (s := {}) plain.simple plain.once ready
  obtain ⟨t, closed, -⟩ := State.close_of_ready ready
  exact ⟨t, bind_eq_ok.mpr ⟨s, done, closed⟩⟩

end CodeAudit.Toml
