import CodeAudit.Proofs.Toml.Writes

/-! What has been written stands. Nothing is written over it, and nothing comes to stand where nothing was written; only
where a header is repeated do the paths through it lead to another table each time. -/
namespace CodeAudit.Toml

open View

variable {w : Write} {ws ws' : List Write} {u v v' : View} {p : List String} {m : Mark}

/-- No repeated header is on the way to a path. -/
def View.Direct (p : List String) (v : View) : Prop :=
  ∀ q, q <+: p → q ≠ p → v q ≠ some .tables

theorem View.Direct.above {q : List String} (direct : Direct p v) (above : q <+: p) : Direct q v := by
  intro r first proper
  refine direct r (first.trans above) ?_
  rintro rfl
  exact proper (first.eq_of_length_le above.length_le)

namespace Write

theorem apply_of_above (above : p <+: w.path) (proper : p ≠ w.path) : w.apply v p = some ((v p).getD .table) := by
  have apart : ¬ w.path <+: p := fun below => proper (above.eq_of_length_le below.length_le)
  obtain ⟨q, _ | _ | _⟩ := w
  · next repeated =>
    cases repeated with
    | true => exact (graft_of_apart apart).trans (extend_of_above above)
    | false => exact extend_of_above above
  · exact (graft_of_apart apart).trans (extend_of_above above)
  · exact (graft_of_apart apart).trans (extend_of_above above)

theorem apply_of_apart (notBelow : ¬ w.path <+: p) (notAbove : ¬ p <+: w.path) : w.apply v p = v p := by
  obtain ⟨q, _ | _ | _⟩ := w
  · next repeated =>
    cases repeated with
    | true => exact (graft_of_apart notBelow).trans (extend_of_apart notAbove)
    | false => exact extend_of_apart notAbove
  · exact (graft_of_apart notBelow).trans (extend_of_apart notAbove)
  · exact (graft_of_apart notBelow).trans (extend_of_apart notAbove)

theorem Fits.apply_self (fits : w.Fits v) : w.apply v w.path = some w.content.mark := by
  obtain ⟨q, _ | _ | _⟩ := w
  · next repeated =>
    cases repeated with
    | true => exact graft_self
    | false =>
      refine (extend_of_above List.prefix_rfl).trans ?_
      rcases fits.free with ⟨repeated, -, free⟩ | none
      · cases there : v q with
        | none => rfl
        | some m => exact congrArg some (free m there)
      · have nothing := none []
        rw [List.append_nil] at nothing
        rw [nothing]
        rfl
  · exact graft_self
  · exact graft_self

/-- Below a path something new comes to stand with an item only, and all is gone with a repeated header only. -/
theorem Fits.apply_below (fits : w.Fits v) (below : w.path <+: p) (proper : p ≠ w.path) :
    w.apply v p = v p ∨ w.content = .header true ∨ v p = none ∧ ∃ i, w.content = .item i := by
  obtain ⟨r, rfl⟩ := below
  have inner : r ≠ [] := fun none => proper (by rw [none, List.append_nil])
  have apart : ¬ w.path ++ r <+: w.path := fun above => by
    have short := above.length_le
    rw [List.length_append] at short
    exact inner (List.eq_nil_of_length_eq_zero (by omega))
  obtain ⟨q, _ | _ | i⟩ := w
  · next repeated =>
    cases repeated with
    | true => exact .inr (.inl rfl)
    | false => exact .inl (extend_of_apart apart)
  · have none := fits.free.resolve_left (by rintro ⟨repeated, header, -⟩; contradiction) r
    exact .inl (graft_append.trans ((if_neg inner).trans none.symm))
  · have none := fits.free.resolve_left (by rintro ⟨repeated, header, -⟩; contradiction) r
    exact .inr (.inr ⟨none, i, rfl⟩)

theorem Fits.apply_below_of_isTable (fits : w.Fits v) (below : w.path <+: p) (proper : p ≠ w.path)
    (table : w.content.isTable) : w.apply v p = v p := by
  rcases fits.apply_below below proper with same | header | ⟨-, i, item⟩
  · exact same
  · rw [header] at table
    contradiction
  · rw [item] at table
    contradiction

end Write

theorem Content.mark_of_isTable {c : Content} (table : c.isTable) : c.mark = .table := by
  cases c with
  | header repeated => cases repeated with
    | true => contradiction
    | false => rfl
  | braces => rfl
  | item => contradiction

namespace Run

/-- What stands at a path stays, unless a repeated header on the way there makes it lead elsewhere. -/
theorem stays (run : Run v ws v') (direct : Direct p v') (there : v p = some m) : v' p = some m := by
  induction ws generalizing v p m with
  | nil =>
    obtain rfl : v' = v := run
    exact there
  | cons w ws ih =>
    obtain ⟨fits, run⟩ := run
    by_cases here : p = w.path
    · subst here
      have same : w.apply v w.path = some m := by
        rw [fits.apply_self]
        rcases fits.free with ⟨-, -, free⟩ | none
        · rw [free m there]
        · have nothing := none []
          rw [List.append_nil, there] at nothing
          contradiction
      exact ih run direct same
    by_cases below : w.path <+: p
    · rcases fits.apply_below below here with same | header | ⟨none, -⟩
      · exact ih run direct (same.trans there)
      · have tables : w.apply v w.path = some .tables := by
          rw [fits.apply_self, header]
          rfl
        exact absurd (ih run (direct.above below) tables) (direct w.path below (Ne.symm here))
      · rw [there] at none
        contradiction
    · refine ih run direct ?_
      by_cases above : p <+: w.path
      · rw [Write.apply_of_above above here, there]
        rfl
      · rw [Write.apply_of_apart below above, there]

theorem direct (run : Run v ws v') (direct : Direct p v') : Direct p v :=
  fun q above proper tables => direct q above proper (run.stays (direct.above above) tables)

/-- A write among others fits where it has its turn. -/
theorem exists_of_mem (run : Run v ws v') (member : w ∈ ws) :
    ∃ before after u, ws = before ++ w :: after ∧ Run v before u ∧ w.Fits u ∧ Run (w.apply u) after v' := by
  obtain ⟨before, after, rfl⟩ := List.append_of_mem member
  obtain ⟨u, first, fits, second⟩ := append_iff.mp run
  exact ⟨before, after, u, rfl, first, fits, second⟩

/-- What is written at a path stands there in the end. -/
theorem mark_of_mem (run : Run v ws v') (member : w ∈ ws) (direct : Direct w.path v') :
    v' w.path = some w.content.mark := by
  obtain ⟨_, _, u, -, -, fits, second⟩ := run.exists_of_mem member
  exact second.stays direct fits.apply_self

/-- Above what is written there are tables in the end. -/
theorem passes_of_mem (run : Run v ws v') (member : w ∈ ws) (above : p <+: w.path) (proper : p ≠ w.path)
    (direct : Direct p v') : v' p = some .table ∨ v' p = some .tables := by
  obtain ⟨_, _, u, -, -, fits, second⟩ := run.exists_of_mem member
  have there := Write.apply_of_above (v := u) above proper
  rcases fits.leads p above proper with none | table | tables
  · rw [none] at there
    exact .inl (second.stays direct there)
  · rw [table] at there
    exact .inl (second.stays direct there)
  · rw [tables] at there
    exact .inr (second.stays direct there)

/-- Nothing is written where something stands. -/
theorem path_ne (run : Run v ws v') (direct : Direct p v') (there : v p = some m)
    (plain : ∀ w ∈ ws, w.path = p → ∀ repeated, w.content ≠ .header repeated) : ∀ w ∈ ws, w.path ≠ p := by
  rintro w member rfl
  obtain ⟨_, _, u, -, first, fits, second⟩ := run.exists_of_mem member
  rcases fits.free with ⟨repeated, header, -⟩ | none
  · exact plain w member rfl repeated header
  · have kept : Run u (w :: _) v' := ⟨fits, second⟩
    have standing := first.stays (kept.direct direct) there
    have nothing := none []
    rw [List.append_nil, standing] at nothing
    contradiction

/-- No value is written twice at a path. -/
theorem countP_le_one (run : Run v ws v') (direct : Direct p v')
    (plain : ∀ w ∈ ws, w.path = p → ∀ repeated, w.content ≠ .header repeated) : ws.countP (·.path = p) ≤ 1 := by
  induction ws generalizing v with
  | nil => simp
  | cons w ws ih =>
    obtain ⟨fits, run⟩ := run
    obtain ⟨-, plain⟩ := List.forall_mem_cons.mp plain
    rw [List.countP_cons]
    by_cases here : w.path = p
    · have others := run.path_ne direct (here ▸ fits.apply_self) plain
      have none : ws.countP (·.path = p) = 0 := List.countP_eq_zero.mpr fun w member => by simpa using others w member
      rw [none, Nat.zero_add]
      split <;> decide
    · simpa [here] using ih run plain

/-- Nothing comes to stand at a path where nothing is written and above which only tables are. -/
theorem eq_of_untouched (run : Run v ws v') (untouched : ∀ w ∈ ws, ¬ p <+: w.path)
    (tables : ∀ w ∈ ws, w.path <+: p → w.content.isTable) : v' p = v p := by
  induction ws generalizing v with
  | nil =>
    obtain rfl : v' = v := run
    rfl
  | cons w ws ih =>
    obtain ⟨fits, run⟩ := run
    obtain ⟨notAbove, untouched⟩ := List.forall_mem_cons.mp untouched
    obtain ⟨table, tables⟩ := List.forall_mem_cons.mp tables
    rw [ih run untouched tables]
    by_cases below : w.path <+: p
    · have proper : p ≠ w.path := by
        rintro rfl
        exact notAbove List.prefix_rfl
      exact fits.apply_below_of_isTable below proper (table below)
    · exact Write.apply_of_apart below notAbove

/-- Where only tables are begun and nothing else is above, there is no more than a table. -/
theorem eq_table (run : Run v ws v') (tables : ∀ w ∈ ws, w.path <+: p → w.content.isTable)
    (there : ∀ m, v p = some m → m = .table) : ∀ m, v' p = some m → m = .table := by
  induction ws generalizing v with
  | nil =>
    obtain rfl : v' = v := run
    exact there
  | cons w ws ih =>
    obtain ⟨fits, run⟩ := run
    obtain ⟨table, tables⟩ := List.forall_mem_cons.mp tables
    refine ih run tables fun m now => ?_
    by_cases here : p = w.path
    · subst here
      obtain rfl := Option.some.inj (fits.apply_self.symm.trans now)
      exact Content.mark_of_isTable (table List.prefix_rfl)
    by_cases below : w.path <+: p
    · exact there m ((fits.apply_below_of_isTable below here (table below)).symm.trans now)
    by_cases above : p <+: w.path
    · rw [Write.apply_of_above above here] at now
      cases before : v p with
      | none =>
        rw [before] at now
        exact (Option.some.inj now).symm
      | some m' =>
        rw [before] at now
        exact there m (before.trans now)
    · exact there m ((Write.apply_of_apart below above).symm.trans now)

end Run

end CodeAudit.Toml
