/-! What it takes for a computation that may fail to succeed, and success read off a computed value. -/
namespace CodeAudit

variable {ε α β : Type} {x : Except ε α}

theorem map_eq_ok {f : α → β} {b : β} : x.map f = .ok b ↔ ∃ a, x = .ok a ∧ f a = b := by
  cases x <;> simp [Except.map]

theorem bind_eq_ok {f : α → Except ε β} {b : β} : (x >>= f) = .ok b ↔ ∃ a, x = .ok a ∧ f a = .ok b := by
  cases x <;> simp [bind, Except.bind]

theorem mapError_eq_ok {ε' : Type} {f : ε → ε'} {a : α} : x.mapError f = .ok a ↔ x = .ok a := by
  cases x with
  | ok b =>
    change Except.ok b = .ok a ↔ Except.ok b = .ok a
    rw [Except.ok.injEq, Except.ok.injEq]
  | error => exact ⟨nofun, nofun⟩

theorem ok_bind (a : α) (f : α → Except ε β) : (Except.ok a >>= f) = f a :=
  rfl

theorem error_bind (e : ε) (f : α → Except ε β) : (Except.error e >>= f) = .error e :=
  rfl

theorem ok_mapError {ε' : Type} (a : α) (f : ε → ε') : (Except.ok a).mapError f = .ok a :=
  rfl

theorem error_mapError {ε' : Type} (e : ε) (f : ε → ε') : (Except.error e : Except ε α).mapError f = .error (f e) :=
  rfl

theorem eq_ok_of_toOption {a : α} (given : x.toOption = some a) : x = .ok a := by
  cases x with
  | ok => rw [Option.some.inj given]
  | error => contradiction

theorem exists_ok_of_toOption {p : α → Bool} (given : x.toOption.any p) : ∃ a, x = .ok a ∧ p a := by
  cases x with
  | ok a => exact ⟨a, rfl, given⟩
  | error => contradiction

end CodeAudit
