import CodeAudit.CommandLine.Run
import CodeAudit.Proofs.Data.Result

/-! What an analysis makes of the functions that are asked for. It takes settings and a module from files, selects
functions of the module and analyzes them side by side. Any one that cannot be analyzed may be the one that the failure
of the analysis is about. -/
namespace CodeAudit

namespace FunctionSource

variable {f : FunctionSource} {name : String}

theorem goesBy_iff : f.goesBy name ↔ f.qualifiedName = name ∨ f.name = name := by
  simp [goesBy]

theorem not_goesBy_iff : ¬ f.goesBy name ↔ f.qualifiedName ≠ name ∧ f.name ≠ name := by
  simp [goesBy]

end FunctionSource

namespace CommandLine

open FunctionSource

/-- The functions that a request selects from those of a module: all of them, or the first one that has a name as its
bare or as its qualified name. -/
inductive Selects (fs : List FunctionSource) : Option String → List FunctionSource → Prop where
  | all : Selects fs none fs
  | first {name : String} {f : FunctionSource} {front back : List FunctionSource} (split : fs = front ++ f :: back)
      (named : f.qualifiedName = name ∨ f.name = name)
      (others : ∀ g ∈ front, g.qualifiedName ≠ name ∧ g.name ≠ name) : Selects fs (some name) [f]

/-- What an analysis takes from files. -/
structure Given (read : ReadFile) (r : AnalyzeRequest) (settings : Settings) (module : List Char) : Prop where
  settings : Settings.load read r.settings = .ok settings
  module : read r.file = .ok module

/-- How an analysis fails at one of the functions that are asked for. -/
inductive FailsAt (read : ReadFile) (r : AnalyzeRequest) (f : FunctionSource) : Trouble → Prop where
  | intro {settings : Settings} {module : List Char} {fs selected : List FunctionSource} {e : Failure}
      (given : Given read r settings module) (listed : list (.ofList module) = .ok fs)
      (selects : Selects fs r.function selected) (member : f ∈ selected)
      (failed : analyze settings.thresholds f.source = .error e) :
      FailsAt read r f ⟨["Failed to analyze '" ++ f.qualifiedName ++ "'"], .failure e⟩

/-- How an analysis fails: each of its stages puts a context of its own around what went wrong in it. -/
inductive Fails (read : ReadFile) (r : AnalyzeRequest) : Trouble → Prop where
  | settings {e : Failure} (failed : Settings.load read r.settings = .error e) : Fails read r ⟨[], .failure e⟩
  | file {settings : Settings} {fault : FileFault} (loaded : Settings.load read r.settings = .ok settings)
      (failed : read r.file = .error fault) : Fails read r ⟨["Failed to read " ++ r.file], .other fault.message⟩
  | module {settings : Settings} {module : List Char} {e : Failure} (given : Given read r settings module)
      (failed : readModule module = .error e) :
      Fails read r ⟨["Failed to extract functions from " ++ r.file], .failure e⟩
  | missing {settings : Settings} {module : List Char} {fs : List FunctionSource} {name : String}
      (given : Given read r settings module) (listed : list (.ofList module) = .ok fs) (wanted : r.function = some name)
      (others : ∀ g ∈ fs, g.qualifiedName ≠ name ∧ g.name ≠ name) :
      Fails read r ⟨["Failed to extract functions from " ++ r.file], .failure (.functionNotFound name)⟩
  | function {f : FunctionSource} {t : Trouble} (failed : FailsAt read r f t) : Fails read r t

/-- How an analysis succeeds: all selected functions are analyzed, in the order in which the module has them. -/
structure Succeeds (read : ReadFile) (r : AnalyzeRequest) (settings : Settings) (module : List Char)
    (xs : List Analyzed) : Prop where
  given : Given read r settings module
  selects : ∃ fs, list (.ofList module) = .ok fs ∧ Selects fs r.function (xs.map (·.1))
  each : ∀ x ∈ xs, analyze settings.thresholds x.1.source = .ok x.2

/-! ### What is selected -/

section Select

variable {module : List Char} {fs selected : List FunctionSource} {wanted : Option String} {name : String}

theorem Selects.mem (selects : Selects fs wanted selected) {f : FunctionSource} (member : f ∈ selected) : f ∈ fs := by
  cases selects with
  | all => exact member
  | first split =>
    obtain rfl := List.mem_singleton.mp member
    simp [split]

theorem list_of_refused {e : Failure} (refused : readModule module = .error e) :
    list (.ofList module) = .error e := by
  rw [list, String.toList_ofList, refused]
  rfl

theorem select_of_refused {e : Failure} (refused : readModule module = .error e) (wanted : Option String) :
    select (.ofList module) wanted = .error e := by
  have unlisted := list_of_refused refused
  cases wanted with
  | none => exact unlisted
  | some name =>
    rw [select, extract, unlisted]
    rfl

theorem select_of_selects (listed : list (.ofList module) = .ok fs) (selects : Selects fs wanted selected) :
    select (.ofList module) wanted = .ok selected := by
  cases selects with
  | all => exact listed
  | @first name f front back split named others =>
    have found : fs.find? (goesBy name) = some f := by
      refine List.find?_eq_some_iff_append.mpr ⟨goesBy_iff.mpr named, front, back, split, fun g earlier => ?_⟩
      simpa using not_goesBy_iff.mpr (others g earlier)
    rw [select, extract, listed, Except.bind, named?, found]
    rfl

theorem select_of_missing (listed : list (.ofList module) = .ok fs)
    (others : ∀ g ∈ fs, g.qualifiedName ≠ name ∧ g.name ≠ name) :
    select (.ofList module) (some name) = .error (.functionNotFound name) := by
  have missing : fs.find? (goesBy name) = none :=
    List.find?_eq_none.mpr fun g member => not_goesBy_iff.mpr (others g member)
  rw [select, extract, listed, Except.bind, named?, missing]
  rfl

theorem selects_or_missing (fs : List FunctionSource) (wanted : Option String) :
    (∃ selected, Selects fs wanted selected) ∨
      ∃ name, wanted = some name ∧ ∀ g ∈ fs, g.qualifiedName ≠ name ∧ g.name ≠ name := by
  cases wanted with
  | none => exact .inl ⟨fs, .all⟩
  | some name =>
    cases found : fs.find? (goesBy name) with
    | none =>
      refine .inr ⟨name, rfl, fun g member => not_goesBy_iff.mp ?_⟩
      exact List.find?_eq_none.mp found g member
    | some f =>
      obtain ⟨named, front, back, split, others⟩ := List.find?_eq_some_iff_append.mp found
      refine .inl ⟨[f], .first split (goesBy_iff.mp named) fun g earlier => not_goesBy_iff.mp ?_⟩
      simpa using others g earlier

end Select

/-! ### What is analyzed -/

section Analyzed

variable {limits : Thresholds} {f : FunctionSource} {fs : List FunctionSource} {x : Analyzed} {xs : List Analyzed}
  {t : Trouble}

theorem analyzeOne_eq_ok_iff : analyzeOne limits f = .ok x ↔ f = x.1 ∧ analyze limits x.1.source = .ok x.2 := by
  obtain ⟨g, a⟩ := x
  unfold analyzeOne
  constructor
  · intro made
    split at made
    · next a' analysis =>
      obtain ⟨rfl, rfl⟩ := Prod.mk.inj (Except.ok.inj made)
      exact ⟨rfl, analysis⟩
    · cases made
  · rintro ⟨rfl, analysis⟩
    rw [analysis]

theorem analyzeOne_eq_error_iff : analyzeOne limits f = .error t ↔
    ∃ e, analyze limits f.source = .error e ∧ t = ⟨["Failed to analyze '" ++ f.qualifiedName ++ "'"], .failure e⟩ := by
  unfold analyzeOne
  constructor
  · intro failed
    split at failed
    · cases failed
    · next e analysis => exact ⟨e, analysis, (Except.error.inj failed).symm⟩
  · rintro ⟨e, analysis, rfl⟩
    rw [analysis]
    rfl

theorem map_analyzeOne_eq_iff : fs.map (analyzeOne limits) = xs.map .ok ↔
    fs = xs.map (·.1) ∧ ∀ x ∈ xs, analyze limits x.1.source = .ok x.2 := by
  induction fs generalizing xs with
  | nil => cases xs <;> simp
  | cons f fs ih =>
    cases xs with
    | nil => simp
    | cons x xs =>
      simp only [List.map_cons, List.cons.injEq, ih, analyzeOne_eq_ok_iff, List.forall_mem_cons]
      exact and_and_and_comm

end Analyzed

variable {read : ReadFile} {r : AnalyzeRequest} {settings : Settings} {module : List Char}
  {fs selected : List FunctionSource} {xs : List Analyzed} {t : Trouble}

theorem analyzed_of_selected (given : Given read r settings module)
    (chosen : select (.ofList module) r.function = .ok selected) (race : Race Trouble) :
    analyzed read r race = race.collect (selected.map (analyzeOne settings.thresholds)) := by
  simp only [analyzed, given.settings, given.module, chosen, ok_mapError, ok_bind]

theorem analyzed_of_unloaded {e : Failure} (failed : Settings.load read r.settings = .error e) (race : Race Trouble) :
    analyzed read r race = .error ⟨[], .failure e⟩ := by
  rw [analyzed, failed, error_mapError, error_bind]
  rfl

theorem analyzed_of_unread {fault : FileFault} (loaded : Settings.load read r.settings = .ok settings)
    (failed : read r.file = .error fault) (race : Race Trouble) :
    analyzed read r race = .error ⟨["Failed to read " ++ r.file], .other fault.message⟩ := by
  simp only [analyzed, loaded, failed, ok_mapError, ok_bind, error_mapError, error_bind]
  rfl

theorem analyzed_of_unselected {e : Failure} (given : Given read r settings module)
    (failed : select (.ofList module) r.function = .error e) (race : Race Trouble) :
    analyzed read r race = .error ⟨["Failed to extract functions from " ++ r.file], .failure e⟩ := by
  simp only [analyzed, given.settings, given.module, failed, ok_mapError, ok_bind, error_mapError, error_bind]
  rfl

theorem analyzed_of_missing {name : String} (given : Given read r settings module)
    (listed : list (.ofList module) = .ok fs) (wanted : r.function = some name)
    (others : ∀ g ∈ fs, g.qualifiedName ≠ name ∧ g.name ≠ name) (race : Race Trouble) :
    analyzed read r race =
      .error ⟨["Failed to extract functions from " ++ r.file], .failure (.functionNotFound name)⟩ := by
  have unselected := select_of_missing listed others
  exact analyzed_of_unselected given (wanted ▸ unselected) race

/-- An analysis succeeds exactly if all functions that are asked for can be analyzed. -/
theorem analyzed_eq_ok_iff (given : Given read r settings module) {race : Race Trouble} :
    analyzed read r race = .ok xs ↔ select (.ofList module) r.function = .ok (xs.map (·.1)) ∧
      ∀ x ∈ xs, analyze settings.thresholds x.1.source = .ok x.2 := by
  cases chosen : select (.ofList module) r.function with
  | error e => simp [analyzed_of_unselected given chosen]
  | ok selected =>
    rw [analyzed_of_selected given chosen, race.collect_eq_ok_iff, map_analyzeOne_eq_iff, Except.ok.injEq]

/-- An analysis fails before it comes to the functions, or else it collects what their analyses give. -/
theorem analyzed_stages (read : ReadFile) (r : AnalyzeRequest) :
    (∃ t, Fails read r t ∧ ∀ race, analyzed read r race = .error t) ∨
      ∃ settings module fs selected, Given read r settings module ∧ list (.ofList module) = .ok fs ∧
        Selects fs r.function selected ∧
        ∀ race, analyzed read r race = race.collect (selected.map (analyzeOne settings.thresholds)) := by
  cases loaded : Settings.load read r.settings with
  | error e => exact .inl ⟨_, .settings loaded, analyzed_of_unloaded loaded⟩
  | ok settings =>
    cases contents : read r.file with
    | error fault => exact .inl ⟨_, .file loaded contents, analyzed_of_unread loaded contents⟩
    | ok module =>
      have given : Given read r settings module := ⟨loaded, contents⟩
      cases accepted : readModule module with
      | error e => exact .inl ⟨_, .module given accepted, analyzed_of_unselected given (select_of_refused accepted _)⟩
      | ok root =>
        have listed : list (.ofList module) = .ok (all module root) := by
          rw [list, String.toList_ofList, accepted]
          rfl
        obtain ⟨selected, selects⟩ | ⟨name, wanted, others⟩ := selects_or_missing (all module root) r.function
        · exact .inr ⟨settings, module, _, selected, given, listed, selects,
            analyzed_of_selected given (select_of_selects listed selects)⟩
        · exact .inl ⟨_, .missing given listed wanted others, analyzed_of_missing given listed wanted others⟩

theorem analyzed_cases (read : ReadFile) (r : AnalyzeRequest) (race : Race Trouble) :
    (∃ t, analyzed read r race = .error t ∧ Fails read r t) ∨
      ∃ settings module xs, analyzed read r race = .ok xs ∧ Succeeds read r settings module xs := by
  obtain ⟨t, fails, failed⟩ | ⟨settings, module, fs, selected, given, listed, selects, outcome⟩ := analyzed_stages read r
  · exact .inl ⟨t, failed race, fails⟩
  · obtain ⟨t, lost, failed⟩ | ⟨xs, same, done⟩ :=
      race.collect_cases (selected.map (analyzeOne settings.thresholds))
    · obtain ⟨f, member, made⟩ := List.mem_map.mp lost
      obtain ⟨e, analysis, rfl⟩ := analyzeOne_eq_error_iff.mp made
      exact .inl ⟨_, (outcome race).trans failed, .function (.intro given listed selects member analysis)⟩
    · obtain ⟨rfl, each⟩ := map_analyzeOne_eq_iff.mp same
      exact .inr ⟨settings, module, xs, (outcome race).trans done, given, ⟨fs, listed, selects⟩, each⟩

/-- Each failure that an analysis can have is the one that it has in some race. -/
theorem fails_iff : Fails read r t ↔ ∃ race, analyzed read r race = .error t := by
  constructor
  · intro fails
    cases fails with
    | settings failed => exact ⟨.first, analyzed_of_unloaded failed _⟩
    | file loaded failed => exact ⟨.first, analyzed_of_unread loaded failed _⟩
    | module given failed => exact ⟨.first, analyzed_of_unselected given (select_of_refused failed _) _⟩
    | missing given listed wanted others => exact ⟨.first, analyzed_of_missing given listed wanted others _⟩
    | @function f t failed =>
      obtain ⟨given, listed, selects, member, failed⟩ := failed
      have made := analyzeOne_eq_error_iff.mpr ⟨_, failed, rfl⟩
      have lost := Race.collect_favoring (List.mem_map.mpr ⟨f, member, made⟩)
      exact ⟨_, (analyzed_of_selected given (select_of_selects listed selects) _).trans lost⟩
  · rintro ⟨race, failed⟩
    obtain ⟨t', failed', fails⟩ | ⟨_, _, xs, done, -⟩ := analyzed_cases read r race
    · rw [Except.error.inj (failed.symm.trans failed')]
      exact fails
    · rw [failed] at done
      contradiction

/-- An analysis that succeeds does so in every race. -/
theorem Succeeds.analyzed_eq (succeeds : Succeeds read r settings module xs) (race : Race Trouble) :
    analyzed read r race = .ok xs := by
  obtain ⟨given, ⟨fs, listed, selects⟩, each⟩ := succeeds
  exact (analyzed_eq_ok_iff given).mpr ⟨select_of_selects listed selects, each⟩

theorem Succeeds.not_fails (succeeds : Succeeds read r settings module xs) : ¬ Fails read r t := by
  intro fails
  obtain ⟨race, failed⟩ := fails_iff.mp fails
  rw [succeeds.analyzed_eq race] at failed
  contradiction

theorem FailsAt.eq {f : FunctionSource} {t t' : Trouble} (fails : FailsAt read r f t) (fails' : FailsAt read r f t') :
    t = t' := by
  obtain ⟨given, -, -, -, failed⟩ := fails
  obtain ⟨given', -, -, -, failed'⟩ := fails'
  obtain rfl := Except.ok.inj (given.settings.symm.trans given'.settings)
  rw [Except.error.inj (failed.symm.trans failed')]

/-- An analysis can have two failures only if they are about two functions. -/
theorem Fails.eq_or_failsAt {t t' : Trouble} (fails : Fails read r t) (fails' : Fails read r t') :
    t = t' ∨ ∃ f f', f ≠ f' ∧ FailsAt read r f t ∧ FailsAt read r f' t' := by
  obtain ⟨race, failed⟩ := fails_iff.mp fails
  obtain ⟨race', failed'⟩ := fails_iff.mp fails'
  obtain ⟨t₀, -, only⟩ | ⟨settings, module, fs, selected, given, listed, selects, outcome⟩ := analyzed_stages read r
  · rw [only] at failed failed'
    exact .inl (Except.error.inj (failed.symm.trans failed'))
  · have at_function {race : Race Trouble} {t : Trouble} (failed : analyzed read r race = .error t) :
        ∃ f, FailsAt read r f t := by
      rw [outcome] at failed
      obtain ⟨f, member, made⟩ := List.mem_map.mp (race.mem_of_collect failed)
      obtain ⟨e, analysis, rfl⟩ := analyzeOne_eq_error_iff.mp made
      exact ⟨f, .intro given listed selects member analysis⟩
    obtain ⟨f, here⟩ := at_function failed
    obtain ⟨f', here'⟩ := at_function failed'
    by_cases same : f = f'
    · subst same
      exact .inl (here.eq here')
    · exact .inr ⟨f, f', same, here, here'⟩

end CommandLine

end CodeAudit
