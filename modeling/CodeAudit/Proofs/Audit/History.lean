import CodeAudit.Audit.Basic
import CodeAudit.Proofs.Audit.Recency
import CodeAudit.Proofs.Data.Result

/-! Audited functions in use. Whether a call runs the function depends on the arguments of the calls before it alone,
and a call that does not run it gives what the latest run on its argument gave. -/
namespace CodeAudit

/-- Something done with an audited function. -/
inductive Step (α : Type) where
  | call (argument : α)
  | clear

/-- A body that keeps a record of its runs, the latest one first. -/
def recorded {σ α β : Type} (body : Body σ α β) : Body (σ × List (α × β)) α β := fun s a =>
  let (b, state) := body s.1 a
  (b, (state, (a, b) :: s.2))

/-- An audited function with the state of its body, the record of its runs and what surrounds it. -/
structure Usage (σ α β : Type) where
  audited : Audited α β
  state : σ
  runs : List (α × β) := []
  surroundings : Surroundings

variable {σ α β : Type}

namespace Step

/-- The arguments of the calls since the last clearing, the latest one first. -/
def track (recent : List α) : Step α → List α
  | .call a => a :: recent
  | .clear => []

def recent (steps : List (Step α)) : List α :=
  steps.foldl track []

end Step

namespace Usage

variable [BEq α]

def call (colors : Bool) (body : Body σ α β) (u : Usage σ α β) (a : α) :
    Audited.Outcome (σ × List (α × β)) α β :=
  u.audited.call colors (recorded body) (u.state, u.runs) u.surroundings a

def step (colors : Bool) (body : Body σ α β) (u : Usage σ α β) : Step α → Usage σ α β
  | .call a =>
    let out := u.call colors body a
    { audited := out.audited, state := out.state.1, runs := out.state.2, surroundings := out.surroundings }
  | .clear => { u with audited := u.audited.clear }

def after (colors : Bool) (body : Body σ α β) (u : Usage σ α β) (steps : List (Step α)) : Usage σ α β :=
  steps.foldl (step colors body) u

/-- Keeping the record makes no difference to a call. -/
theorem call_eq (colors : Bool) (body : Body σ α β) (u : Usage σ α β) (a : α) :
    let out := u.audited.call colors body u.state u.surroundings a
    let kept := u.call colors body a
    kept.result = out.result ∧ kept.audited = out.audited ∧ kept.state.1 = out.state ∧
      kept.surroundings = out.surroundings := by
  simp only [call, Audited.call]
  split <;> simp [recorded]

variable {colors : Bool} {body : Body σ α β} {u : Usage σ α β} {a : α}

/-- A call with a remembered result only moves it to the front. -/
theorem call_of_found {b : β} {memo : Memo α β} (found : u.audited.memo.find? a = some (b, memo)) :
    u.call colors body a =
      { result := b, audited := { u.audited with memo }, state := (u.state, u.runs)
        surroundings := u.surroundings } := by
  simp [call, Audited.call, found]

/-- A call without one runs the function once and remembers what it gives. -/
theorem call_of_missing (missing : u.audited.memo.find? a = none) :
    u.call colors body a =
      { result := (body u.state a).1
        audited := { u.audited with memo := u.audited.memo.insert a (body u.state a).1 }
        state := ((body u.state a).2, (a, (body u.state a).1) :: u.runs)
        surroundings := u.audited.announce colors u.surroundings } := by
  simp [call, Audited.call, missing, recorded]

/-- The memo of a function in use is in step with the calls and runs, and never changes its capacity. -/
structure Invariant (capacity : Nat) (recent : List α) (u : Usage σ α β) : Prop where
  capacity : u.audited.memo.capacity = capacity
  follows : u.audited.memo.Follows recent u.runs

variable [EquivBEq α] {capacity : Nat} {recent : List α}

theorem step_invariant (invariant : u.Invariant capacity recent) (step : Step α) :
    (u.step colors body step).Invariant capacity (step.track recent) := by
  cases step with
  | clear => exact ⟨invariant.capacity, Memo.clear_follows ..⟩
  | call a =>
    cases found : u.audited.memo.find? a with
    | some hit =>
      obtain ⟨b, memo⟩ := hit
      obtain ⟨follows, same, -⟩ := invariant.follows.find?_follows found
      rw [Usage.step, call_of_found found]
      exact ⟨same.trans invariant.capacity, follows⟩
    | none =>
      rw [Usage.step, call_of_missing found]
      exact ⟨invariant.capacity, invariant.follows.insert_follows a _⟩

theorem after_invariant (invariant : u.Invariant capacity recent) (steps : List (Step α)) :
    (u.after colors body steps).Invariant capacity (steps.foldl Step.track recent) := by
  induction steps generalizing u recent with
  | nil => exact invariant
  | cons step rest ih => exact ih (step_invariant invariant step)

/-- A call is answered from the memo when its argument is among the latest ones. -/
theorem Invariant.call_answered (invariant : u.Invariant capacity recent)
    (answered : recent.contains a ∧ (recent.takeWhile (· != a)).eraseDups.length < capacity) :
    (u.call colors body a).state = (u.state, u.runs) ∧ u.runs.lookup a = some (u.call colors body a).result := by
  rw [← invariant.capacity, ← invariant.follows.found_iff, Option.isSome_iff_exists] at answered
  obtain ⟨⟨b, memo⟩, found⟩ := answered
  rw [call_of_found found]
  exact ⟨rfl, (invariant.follows.find?_follows found).2.2⟩

/-- Any other call runs the function. -/
theorem Invariant.call_run (invariant : u.Invariant capacity recent)
    (unanswered : ¬ (recent.contains a ∧ (recent.takeWhile (· != a)).eraseDups.length < capacity)) :
    let out := u.call colors body a
    out.result = (body u.state a).1 ∧ out.state = ((body u.state a).2, (a, out.result) :: u.runs) := by
  rw [← invariant.capacity, ← invariant.follows.found_iff, Option.not_isSome_iff_eq_none] at unanswered
  rw [call_of_missing unanswered]
  exact ⟨rfl, rfl⟩

end Usage

namespace Audited

/-- A function that was just wrapped, with what was found in its source. -/
def of (settings : Settings) (name source : String) (found : Analysis) : Audited α β :=
  { name, source, bundle := .of found .current, options := settings.audit, thresholds := settings.thresholds
    memo := { capacity := settings.audit.cacheCapacity } }

theorem wrap_eq_ok {settings : Settings} {name source : String} {f : Audited α β} :
    wrap settings name source = .ok f ↔
      ∃ found, analyze settings.thresholds source = .ok found ∧ f = .of settings name source found := by
  unfold wrap of
  cases analyze settings.thresholds source with
  | error e => simp [Except.map]
  | ok found => simp [Except.map, eq_comm]

end Audited

/-- A freshly wrapped function remembers nothing. -/
theorem wrap_invariant [BEq α] {settings : Settings} {name source : String} {f : Audited α β}
    (wrapped : Audited.wrap settings name source = .ok f) (state : σ) (surroundings : Surroundings) :
    (⟨f, state, [], surroundings⟩ : Usage σ α β).Invariant settings.audit.cacheCapacity [] := by
  obtain ⟨found, -, rfl⟩ := Audited.wrap_eq_ok.mp wrapped
  exact ⟨rfl, Memo.follows_new ..⟩

/-- Whatever was done with a wrapped function before, its memo holds the results of as many of the distinct latest
arguments as it has room for. A call is answered without a run exactly when its argument was called since the last
clearing and fewer others were called after it than there is room for, and then with the result of the latest run on
it. Any other call, and so every call when there is no room, runs the function once. Arguments count as one if they are
equal, whatever equality they come with. -/
theorem call_after_steps [BEq α] [EquivBEq α] {settings : Settings} {name source : String} {f : Audited α β}
    (wrapped : Audited.wrap settings name source = .ok f) (colors : Bool) (body : Body σ α β) (state : σ)
    (surroundings : Surroundings) (steps : List (Step α)) (a : α) :
    let u := (⟨f, state, [], surroundings⟩ : Usage σ α β).after colors body steps
    let out := u.call colors body a
    let recent := Step.recent steps
    let answered := recent.contains a ∧ (recent.takeWhile (· != a)).eraseDups.length < settings.audit.cacheCapacity
    u.audited.cached = min settings.audit.cacheCapacity recent.eraseDups.length ∧
      (out.state.2 = u.runs ↔ answered) ∧
      (answered → out.state = (u.state, u.runs) ∧ u.runs.lookup a = some out.result) ∧
      (¬ answered → out.result = (body u.state a).1 ∧
        out.state = ((body u.state a).2, (a, out.result) :: u.runs)) ∧
      (settings.audit.cacheCapacity = 0 → u.audited.cached = 0 ∧ ¬ answered) := by
  intro u out recent answered
  have invariant : u.Invariant settings.audit.cacheCapacity recent :=
    Usage.after_invariant (wrap_invariant wrapped state surroundings) steps
  have cached : u.audited.cached = min settings.audit.cacheCapacity recent.eraseDups.length := by
    rw [← invariant.capacity]
    exact invariant.follows.size_eq
  refine ⟨cached, ⟨?_, ?_⟩, invariant.call_answered, invariant.call_run, ?_⟩
  · intro unchanged
    refine Decidable.byContradiction fun unanswered => ?_
    have run : out.state = ((body u.state a).2, (a, out.result) :: u.runs) := (invariant.call_run unanswered).2
    rw [run] at unchanged
    exact absurd unchanged (by simp)
  · intro within
    rw [(invariant.call_answered within).1]
  · intro none
    rw [cached, none, Nat.zero_min]
    exact ⟨rfl, fun within => Nat.not_lt_zero _ (none ▸ within.2)⟩

/-- There is nothing to find in a function that only returns. -/
theorem analyze_return : analyze {} "def f(x):\n  return x\n" = .ok ⟨1, .empty, 0, 0⟩ :=
  eq_ok_of_toOption (by decide +kernel)

/-- With room for one result, the second of two arguments is answered without a run and the first is not. -/
theorem call_after_eviction :
    let body : Body Nat Nat Nat := fun n a => (a + n, n + 1)
    let steps : List (Step Nat) := [.call 3, .clear, .call 5, .call 7]
    ∃ f : Audited Nat Nat,
      Audited.wrap { audit := { cacheCapacity := 1 } } "f" "def f(x):\n  return x\n" = .ok f ∧
      let u := (⟨f, 0, [], { files := {} }⟩ : Usage Nat Nat Nat).after false body steps
      u.audited.cached = 1 ∧ (u.call false body 7).state.2 = u.runs ∧
        u.runs.lookup 7 = some (u.call false body 7).result ∧
        (u.call false body 5).state.2 = (5, (u.call false body 5).result) :: u.runs := by
  intro body steps
  obtain ⟨f, wrapped⟩ : ∃ f : Audited Nat Nat,
      Audited.wrap { audit := { cacheCapacity := 1 } } "f" "def f(x):\n  return x\n" = .ok f :=
    ⟨_, Audited.wrap_eq_ok.mpr ⟨_, analyze_return, rfl⟩⟩
  obtain ⟨cached, -, found, -⟩ := call_after_steps wrapped false body 0 { files := {} } steps 7
  obtain ⟨-, -, -, run, -⟩ := call_after_steps wrapped false body 0 { files := {} } steps 5
  have found := found (by decide)
  exact ⟨f, wrapped, cached, congrArg Prod.snd found.1, found.2, congrArg Prod.snd (run (by decide)).2⟩

end CodeAudit
