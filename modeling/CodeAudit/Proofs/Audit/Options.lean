import CodeAudit.Proofs.Audit.Sharing

/-! What options change. A function whose results depend on its arguments alone gives the same results whatever its
options are. A new look at its source shows nothing else, and more room makes no call run the function that less room
had answered. -/
namespace CodeAudit

variable {σ α β : Type}

namespace Step

/-- The arguments of the calls among steps, in their order. -/
def arguments : List (Step α) → List α
  | [] => []
  | .call a :: steps => a :: arguments steps
  | .clear :: steps => arguments steps

end Step

namespace Memo

/-- All that is remembered are values of a function. -/
def Holds (m : Memo α β) (value : α → β) : Prop :=
  ∀ e ∈ m.entries, e.2 = value e.1

variable [BEq α] {m : Memo α β} {value : α → β}

theorem Holds.insert (holds : m.Holds value) (a : α) : (m.insert a (value a)).Holds value := by
  intro e member
  rcases List.mem_cons.mp (List.mem_of_mem_take member) with rfl | kept
  · rfl
  · exact holds e (List.mem_filter.mp kept).1

theorem Holds.find? (holds : m.Holds value) (respects : ∀ a a', a == a' → value a = value a') {a : α} {b : β}
    {m' : Memo α β} (found : m.find? a = some (b, m')) : b = value a ∧ m'.Holds value := by
  obtain ⟨⟨k, member, same⟩, rfl⟩ := find?_eq_some found
  have right : b = value a := (holds (k, b) member).trans (respects a k same).symm
  refine ⟨right, fun e member => ?_⟩
  rcases List.mem_cons.mp member with rfl | kept
  · exact right
  · exact holds e (List.mem_filter.mp kept).1

end Memo

namespace Audited

/-- The function with or without a new look at its source before each run. -/
def reanalyzing (f : Audited α β) (anew : Bool) : Audited α β :=
  { f with options := { f.options with reanalyze := anew } }

/-- A look at the source finds what is known of it. -/
def Settled (f : Audited α β) : Prop :=
  ∃ a, analyze f.thresholds f.source = .ok a ∧ f.bundle = .of a .current

variable {f : Audited α β}

theorem Settled.currentBundle (settled : f.Settled) : f.currentBundle = f.bundle := by
  obtain ⟨a, analyzed, bundle⟩ := settled
  unfold Audited.currentBundle
  rw [analyzed, bundle]
  exact ite_self _

/-- A new look at the source makes no difference to a call. -/
theorem call_reanalyzing [BEq α] (settled : f.Settled) (anew colors : Bool) (body : Body σ α β) (state : σ)
    (s : Surroundings) (a : α) :
    let out := f.call colors body state s a
    (f.reanalyzing anew).call colors body state s a = { out with audited := out.audited.reanalyzing anew } := by
  have same : (f.reanalyzing anew).currentBundle = f.currentBundle := by
    have settled' : (f.reanalyzing anew).Settled := settled
    rw [settled.currentBundle, settled'.currentBundle]
    rfl
  have announced : (f.reanalyzing anew).announce colors s = f.announce colors s := by
    unfold announce
    rw [same]
    rfl
  have memo : (f.reanalyzing anew).memo = f.memo := rfl
  dsimp only
  rw [call, call, memo]
  cases f.memo.find? a with
  | some hit => rfl
  | none =>
    dsimp only
    rw [announced]
    rfl

theorem wrap_settled {settings : Settings} {name source : String}
    (wrapped : Audited.wrap settings name source = .ok f) : f.Settled := by
  obtain ⟨found, analyzed, rfl⟩ := wrap_eq_ok.mp wrapped
  exact ⟨found, analyzed, rfl⟩

end Audited

namespace Settings

/-- The settings with or without a new look at sources. -/
def reanalyzing (settings : Settings) (anew : Bool) : Settings :=
  { settings with audit := { settings.audit with reanalyze := anew } }

end Settings

theorem Audited.wrap_reanalyzing (settings : Settings) (anew : Bool) (name source : String) :
    (wrap (settings.reanalyzing anew) name source : Except Failure (Audited α β)) =
      (wrap settings name source).map (reanalyzing · anew) := by
  unfold wrap
  have same : (settings.reanalyzing anew).thresholds = settings.thresholds := rfl
  rw [same]
  cases analyze settings.thresholds source <;> rfl

namespace Usage

variable [BEq α] {colors : Bool} {body : Body σ α β} {u : Usage σ α β} {value : α → β}

/-- What the calls among steps give, in their order. -/
def results (colors : Bool) (body : Body σ α β) (u : Usage σ α β) : List (Step α) → List β
  | [] => []
  | .call a :: steps => (u.call colors body a).result :: results colors body (u.step colors body (.call a)) steps
  | .clear :: steps => results colors body (u.step colors body .clear) steps

/-- As long as values of a function are remembered and run, they are given and remembered. -/
theorem call_holds (depends : ∀ state a, (body state a).1 = value a) (respects : ∀ a a', a == a' → value a = value a')
    (holds : u.audited.memo.Holds value) (a : α) : (u.call colors body a).result = value a ∧ (u.call colors body a).audited.memo.Holds value := by
  cases found : u.audited.memo.find? a with
  | some hit =>
    rw [call_of_found found]
    exact holds.find? respects found
  | none =>
    rw [call_of_missing found, depends]
    exact ⟨rfl, holds.insert a⟩

theorem results_eq (depends : ∀ state a, (body state a).1 = value a)
    (respects : ∀ a a', a == a' → value a = value a') (holds : u.audited.memo.Holds value) (steps : List (Step α)) :
    u.results colors body steps = (Step.arguments steps).map value := by
  induction steps generalizing u with
  | nil => rfl
  | cons step steps ih =>
    cases step with
    | clear => exact ih (u := u.step colors body .clear) (by simp [Memo.Holds, Usage.step, Audited.clear, Memo.clear])
    | call a =>
      obtain ⟨result, kept⟩ := call_holds depends respects holds a
      rw [results, result, Step.arguments, List.map_cons, ih (u := u.step colors body (.call a)) kept]

/-- The use of a function with or without a new look at its source before each run. -/
def reanalyzing (u : Usage σ α β) (anew : Bool) : Usage σ α β :=
  { u with audited := u.audited.reanalyzing anew }

theorem step_settled (settled : u.audited.Settled) (step : Step α) : (u.step colors body step).audited.Settled := by
  cases step with
  | clear => exact settled
  | call a =>
    cases found : u.audited.memo.find? a with
    | some hit =>
      rw [Usage.step, call_of_found found]
      exact settled
    | none =>
      rw [Usage.step, call_of_missing found]
      exact settled

theorem step_reanalyzing (settled : u.audited.Settled) (anew : Bool) (step : Step α) :
    (u.reanalyzing anew).step colors body step = (u.step colors body step).reanalyzing anew := by
  cases step with
  | clear => rfl
  | call a =>
    have same := Audited.call_reanalyzing settled anew colors (recorded body) (u.state, u.runs) u.surroundings a
    have called : (u.reanalyzing anew).call colors body a =
        { u.call colors body a with audited := (u.call colors body a).audited.reanalyzing anew } := same
    rw [Usage.step, Usage.step, called]
    rfl

/-- A new look at the source makes no difference to any use. -/
theorem after_reanalyzing (settled : u.audited.Settled) (anew : Bool) (steps : List (Step α)) :
    (u.reanalyzing anew).after colors body steps = (u.after colors body steps).reanalyzing anew := by
  induction steps generalizing u with
  | nil => rfl
  | cons step steps ih =>
    rw [after, List.foldl_cons, step_reanalyzing settled]
    exact ih (step_settled settled step)

/-- A call is answered exactly when its argument is among the latest ones that there is room for. -/
theorem Invariant.answered_iff [EquivBEq α] {capacity : Nat} {recent : List α}
    (invariant : u.Invariant capacity recent) (a : α) : (u.call colors body a).state.2 = u.runs ↔
      recent.contains a ∧ (recent.takeWhile (· != a)).eraseDups.length < capacity := by
  constructor
  · refine fun unchanged => Decidable.byContradiction fun unanswered => ?_
    rw [(invariant.call_run unanswered).2] at unchanged
    exact absurd unchanged (by simp)
  · intro answered
    rw [(invariant.call_answered answered).1]

end Usage

/-- Whether a source can be wrapped does not depend on the options. -/
theorem wrap_error_iff (settings settings' : Settings) (name source : String) (e : Failure) :
    (Audited.wrap settings name source : Except Failure (Audited α β)) = .error e ↔
      (Audited.wrap settings' name source : Except Failure (Audited α β)) = .error e := by
  have failed (settings : Settings) : (Audited.wrap settings name source : Except Failure (Audited α β)) = .error e ↔
      Flow.parse source.toList = .error e := by
    unfold Audited.wrap analyze
    cases Flow.parse source.toList <;> simp [Except.map]
  rw [failed, failed]

/-- A source that can be wrapped with some options can be wrapped with all others. If the results of the function
depend on its arguments alone, and are the same for equal ones, they are what every call gives in either case, wherever the two are used. If all that
differs is whether a new look is taken at the source, then what is shown and logged, what is known and how much is
remembered is the same after any steps. Every call that is answered with less room is answered with more, whatever
else differs. -/
theorem options_change_no_result [BEq α] [EquivBEq α] (settings settings' : Settings) (name source : String)
    (colors : Bool) (body : Body σ α β) (value : α → β) (depends : ∀ state a, (body state a).1 = value a)
    (respects : ∀ a a', a == a' → value a = value a') (state : σ) (around around' : Surroundings)
    (steps : List (Step α)) :
    (∀ e, (Audited.wrap settings name source : Except Failure (Audited α β)) = .error e ↔
      (Audited.wrap settings' name source : Except Failure (Audited α β)) = .error e) ∧
    ∀ f f' : Audited α β, Audited.wrap settings name source = .ok f → Audited.wrap settings' name source = .ok f' →
      let start : Usage σ α β := ⟨f, state, [], around⟩
      let start' : Usage σ α β := ⟨f', state, [], around'⟩
      let u := start.after colors body steps
      let u' := start'.after colors body steps
      (start.results colors body steps = (Step.arguments steps).map value ∧
        start'.results colors body steps = (Step.arguments steps).map value) ∧
      (settings' = settings.reanalyzing settings'.audit.reanalyze → around = around' →
        u.surroundings = u'.surroundings ∧ u.audited.bundle = u'.audited.bundle ∧
          u.audited.cached = u'.audited.cached) ∧
      (settings.audit.cacheCapacity ≤ settings'.audit.cacheCapacity →
        ∀ a, (u.call colors body a).state.2 = u.runs → (u'.call colors body a).state.2 = u'.runs) := by
  refine ⟨wrap_error_iff settings settings' name source, ?_⟩
  intro f f' wrapped wrapped' start start' u u'
  refine ⟨?_, ?_, ?_⟩
  · have fresh {settings : Settings} {f : Audited α β} (wrapped : Audited.wrap settings name source = .ok f) :
        f.memo.Holds value := by
      have nothing := (wrap_invariant wrapped state around).follows.arguments
      have empty : f.memo.entries = [] := by simpa using nothing
      simp [Memo.Holds, empty]
    exact ⟨Usage.results_eq depends respects (fresh wrapped) steps, Usage.results_eq depends respects (fresh wrapped') steps⟩
  · rintro differs rfl
    rw [differs, Audited.wrap_reanalyzing, wrapped] at wrapped'
    obtain rfl := Except.ok.inj wrapped'
    have same : u' = u.reanalyzing settings'.audit.reanalyze :=
      Usage.after_reanalyzing (u := start) (Audited.wrap_settled wrapped) settings'.audit.reanalyze steps
    rw [same]
    exact ⟨rfl, rfl, rfl⟩
  · intro more a
    have invariant : u.Invariant settings.audit.cacheCapacity (Step.recent steps) :=
      Usage.after_invariant (wrap_invariant wrapped state around) steps
    have invariant' : u'.Invariant settings'.audit.cacheCapacity (Step.recent steps) :=
      Usage.after_invariant (wrap_invariant wrapped' state around') steps
    rw [invariant.answered_iff, invariant'.answered_iff]
    exact fun ⟨recent, few⟩ => ⟨recent, Nat.lt_of_lt_of_le few more⟩

/-- Three calls with room for one result, which write to a log, for two, and with new looks at the source. -/
theorem options_of_three_calls :
    let body : Body Nat Nat Nat := fun n a => (a + 1, n + 1)
    let steps : List (Step Nat) := [.call 3, .call 5, .call 3]
    let one : Settings := { audit := { cacheCapacity := 1, verbose := true, logFile := some "a" } }
    let two : Settings := { audit := { cacheCapacity := 2 } }
    let source := "def f(x):\n  return x\n"
    let start (f : Audited Nat Nat) : Usage Nat Nat Nat := ⟨f, 0, [], { files := {} }⟩
    ∃ f g h : Audited Nat Nat, Audited.wrap one "f" source = .ok f ∧ Audited.wrap two "f" source = .ok g ∧
      Audited.wrap (one.reanalyzing true) "f" source = .ok h ∧
      (start f).results false body steps = [4, 6, 4] ∧ (start g).results false body steps = [4, 6, 4] ∧
      ((start f).after false body steps).surroundings = ((start h).after false body steps).surroundings ∧
      (((start g).after false body steps).call false body 3).state.2 = ((start g).after false body steps).runs := by
  intro body steps one two source start
  obtain ⟨f, wrapped⟩ : ∃ f : Audited Nat Nat, Audited.wrap one "f" source = .ok f :=
    ⟨_, Audited.wrap_eq_ok.mpr ⟨_, analyze_return, rfl⟩⟩
  obtain ⟨g, more⟩ : ∃ g : Audited Nat Nat, Audited.wrap two "f" source = .ok g :=
    ⟨_, Audited.wrap_eq_ok.mpr ⟨_, analyze_return, rfl⟩⟩
  have anew : Audited.wrap (one.reanalyzing true) "f" source = .ok (f.reanalyzing true) := by
    rw [Audited.wrap_reanalyzing, wrapped]
    rfl
  have roomier := options_change_no_result one two "f" source false body (· + 1) (fun _ _ => rfl)
    (by simp) 0 { files := {} } { files := {} } steps
  have renewed := options_change_no_result one (one.reanalyzing true) "f" source false body (· + 1) (fun _ _ => rfl)
    (by simp) 0 { files := {} } { files := {} } steps
  obtain ⟨⟨results, results'⟩, -, answered⟩ := roomier.2 f g wrapped more
  obtain ⟨-, same, -⟩ := renewed.2 f (f.reanalyzing true) wrapped anew
  have invariant : ((start f).after false body steps).Invariant 1 (Step.recent steps) :=
    Usage.after_invariant (wrap_invariant wrapped 0 { files := {} }) steps
  exact ⟨f, g, f.reanalyzing true, wrapped, more, anew, results, results', (same rfl rfl).1,
    answered (by decide) 3 ((invariant.answered_iff 3).mpr (by decide))⟩

end CodeAudit
