import CodeAudit.Audit.Session
import CodeAudit.Proofs.Audit.History
import CodeAudit.Proofs.Files.Append
import Mathlib

/-! Audited functions that share their files. Each of them behaves as if it were alone, and the files hold what they
held and behind it one line for each call that ran a function, in the order of the calls. -/
namespace CodeAudit

variable {σ α β : Type}

/-- A line that does not end with a line feed gets one. -/
theorem Log.record_of_getLast? {line : List Char} (ends : line.getLast? ≠ some '\n') :
    record line = line ++ ['\n'] := by
  rw [record]
  rcases List.eq_nil_or_concat line with rfl | ⟨front, c, rfl⟩
  · rfl
  · have last : c ≠ '\n' := by
      rintro rfl
      exact ends (by simp)
    simp [last]

/-- Findings are written as a JSON object. -/
theorem Report.getLast?_text (r : Report) : r.text.getLast? = some '\x7d' := by
  unfold Report.text Json.Codec.write Json.reportCodec Json.recordCodec
  rw [Json.compact, List.getLast?_append]
  rfl

theorem Log.record_append_text (front : List Char) (r : Report) :
    record (front ++ r.text) = front ++ r.text ++ ['\n'] := by
  refine record_of_getLast? ?_
  rw [List.getLast?_append, r.getLast?_text, Option.some_or]
  decide

/-- A line of the log ends with findings, so that it keeps all of itself. -/
theorem record_logLine (name : String) (complexity : Nat) (r : Report) :
    Log.record (logLine name complexity r) = logLine name complexity r ++ ['\n'] :=
  Log.record_append_text _ r

namespace Step

/-- The steps of one of several functions. -/
def own (i : Nat) (steps : List (Nat × Step α)) : List (Step α) :=
  (steps.filter (·.1 = i)).map (·.2)

/-- Whether a call is answered without a run, when there is room for `capacity` results and the given steps came
before it: its argument was called since the last clearing and fewer others than there is room for came after it. -/
def isAnswered [BEq α] (capacity : Nat) (past : List (Step α)) (a : α) : Bool :=
  (recent past).contains a && ((recent past).takeWhile (· != a)).eraseDups.length < capacity

end Step

namespace Audited

/-- The place of the file that takes the lines of a function, if there is one. -/
def target? (f : Audited α β) (fs : Files) : Option Files.Place :=
  f.options.logFile.bind fs.target?

/-- The line that a run of a function leaves in its log. -/
def line (f : Audited α β) : List Char :=
  logLine f.name f.bundle.complexity f.bundle.report ++ ['\n']

/-- A function shows and logs its findings anew if that is wanted, but they are the same ones. -/
theorem currentBundle_of_wrap [BEq α] {settings : Settings} {name source : String} {f : Audited α β}
    (wrapped : Audited.wrap settings name source = .ok f) : f.currentBundle = f.bundle := by
  obtain ⟨found, analyzed, rfl⟩ := wrap_eq_ok.mp wrapped
  simp [currentBundle, of, analyzed]

/-- A record goes into the log if the log can be opened. -/
theorem received_log (f : Audited α β) (b : Bundle) (fs : Files) :
    fs.Received (f.log b fs)
      ((f.target? fs).map (·, logLine f.name b.complexity b.report ++ ['\n'])).toList := by
  unfold log target?
  cases f.options.logFile with
  | none => exact fs.received_nil
  | some path =>
    have written : Log.append fs path (logLine f.name b.complexity b.report) =
        fs.append path (logLine f.name b.complexity b.report ++ ['\n']) := by
      rw [Log.append, record_logLine]
    simp only [Option.bind_some, written]
    obtain ⟨missing, fault, failed⟩ | ⟨place, fs', target, appended, changed⟩ := fs.append_cases path _
    · rw [failed, missing]
      exact fs.received_nil
    · rw [appended, target]
      exact Files.received_singleton changed

/-- The record of a function that is as it was is its line. -/
theorem log_received (f : Audited α β) (current : f.currentBundle = f.bundle) (fs : Files) :
    fs.Received (f.log f.currentBundle fs) ((f.target? fs).map (·, f.line)).toList := by
  rw [current]
  exact f.received_log f.bundle fs

/-- A line that no log takes changes nothing at all. -/
theorem log_of_missing {f : Audited α β} {fs : Files} (missing : f.target? fs = none) (b : Bundle) :
    f.log b fs = fs := by
  unfold log
  unfold target? at missing
  cases logFile : f.options.logFile with
  | none => rfl
  | some path =>
    rw [logFile, Option.bind_some] at missing
    obtain ⟨-, fault, failed⟩ | ⟨place, fs', target, -⟩ :=
      fs.append_cases path (Log.record (logLine f.name b.complexity b.report))
    · simp only [Log.append, failed]
      rfl
    · rw [missing] at target
      contradiction

/-- The findings, the target and the line have nothing to do with what is remembered. -/
theorem log_eq_of_memo [BEq α] {f g : Audited α β} (same : ∃ memo, g = { f with memo }) :
    g.bundle = f.bundle ∧ g.currentBundle = f.currentBundle ∧ g.target? = f.target? ∧ g.line = f.line := by
  obtain ⟨memo, rfl⟩ := same
  exact ⟨rfl, by simp only [currentBundle], rfl, by simp only [line]⟩

theorem files_of_found [BEq α] {f : Audited α β} {a : α} (found : (f.memo.find? a).isSome) (colors : Bool)
    (body : Body σ α β) (state : σ) (s : Surroundings) :
    (f.call colors body state s a).surroundings.files = s.files := by
  obtain ⟨hit, found⟩ := Option.isSome_iff_exists.mp found
  rw [call, found]

/-- Only a call that finds no result writes into a log. -/
theorem files_of_missing [BEq α] {f : Audited α β} {a : α} (missing : (f.memo.find? a).isSome = false) (colors : Bool)
    (body : Body σ α β) (state : σ) (s : Surroundings) :
    (f.call colors body state s a).surroundings.files = f.log f.currentBundle s.files := by
  rw [call, Option.isSome_eq_false_iff.mp missing |> Option.isNone_iff_eq_none.mp]
  rfl

/-- A call does the same whatever the files are, and whatever was shown before. -/
theorem call_frame [BEq α] (colors : Bool) (body : Body σ α β) (f : Audited α β) (state : σ) (a : α)
    (s s' : Surroundings) :
    let out := f.call colors body state s a
    let other := f.call colors body state s' a
    out.result = other.result ∧ out.audited = other.audited ∧ out.state = other.state ∧
      (s.shown = s'.shown → out.surroundings.shown = other.surroundings.shown) := by
  simp only [call]
  split
  · simp
  · simp [announce]

end Audited

namespace Handle

variable [BEq α] (colors : Bool) (body : Body σ α β)

/-- Something is done with a function that has no files around it. -/
def step (h : Handle σ α β) : Step α → Handle σ α β
  | .call a =>
    let out := h.audited.call colors body h.state { files := {} } a
    ⟨out.audited, out.state⟩
  | .clear => { h with audited := h.audited.clear }

def after (h : Handle σ α β) (steps : List (Step α)) : Handle σ α β :=
  steps.foldl (step colors body) h

/-- A function in use, without the record of its runs. -/
def ofUsage (u : Usage σ α β) : Handle σ α β :=
  ⟨u.audited, u.state⟩

theorem step_ofUsage (u : Usage σ α β) (step : Step α) :
    (ofUsage u).step colors body step = ofUsage (u.step colors body step) := by
  cases step with
  | clear => rfl
  | call a =>
    obtain ⟨-, audited, state, -⟩ := Usage.call_eq colors body u a
    obtain ⟨-, audited', state', -⟩ := Audited.call_frame colors body u.audited u.state a u.surroundings { files := {} }
    simp only [Handle.step, ofUsage, Usage.step, audited, state, audited', state']

/-- Functions are used as they are when their runs are recorded. -/
theorem after_ofUsage (u : Usage σ α β) (steps : List (Step α)) :
    (ofUsage u).after colors body steps = ofUsage (u.after colors body steps) := by
  induction steps generalizing u with
  | nil => rfl
  | cons step rest ih =>
    rw [after, List.foldl_cons, step_ofUsage]
    exact ih (u.step colors body step)

/-- All that using a function changes of it is what it remembers. -/
theorem after_audited (h : Handle σ α β) (steps : List (Step α)) :
    ∃ memo, (h.after colors body steps).audited = { h.audited with memo } := by
  induction steps generalizing h with
  | nil => exact ⟨h.audited.memo, rfl⟩
  | cons step rest ih =>
    obtain ⟨memo, rest⟩ := ih (h.step colors body step)
    have one : ∃ memo, (h.step colors body step).audited = { h.audited with memo } := by
      cases step with
      | clear => exact ⟨_, rfl⟩
      | call a =>
        simp only [Handle.step, Audited.call]
        split
        · exact ⟨_, rfl⟩
        · exact ⟨_, rfl⟩
    obtain ⟨memo', one⟩ := one
    refine ⟨memo, rest.trans ?_⟩
    rw [one]

variable [EquivBEq α] {colors body}

/-- The calls that find a result are those that are answered. -/
theorem found_iff_isAnswered {h : Handle σ α β} (fresh : h.audited.memo.entries = []) (past : List (Step α)) (a : α) :
    ((h.after colors body past).audited.memo.find? a).isSome = Step.isAnswered h.audited.memo.capacity past a := by
  let u : Usage σ α β := ⟨h.audited, h.state, [], { files := {} }⟩
  have start : u.Invariant h.audited.memo.capacity [] := ⟨rfl, by simp [u, fresh], by simp [u, fresh]⟩
  have invariant : (u.after colors body past).Invariant h.audited.memo.capacity (Step.recent past) :=
    Usage.after_invariant start past
  have used : (h.after colors body past).audited = (u.after colors body past).audited :=
    congrArg audited (after_ofUsage colors body u past)
  rw [used, Bool.eq_iff_iff, invariant.follows.found_iff, invariant.capacity]
  simp [Step.isAnswered]

end Handle

namespace Session

/-- What is needed to wrap a function. -/
structure Request (σ : Type) where
  settings : Settings
  name : String
  source : String
  state : σ

variable [BEq α] (colors : Bool) (bodies : Nat → Body σ α β)

/-- A session in which functions were wrapped, one after the other, and nothing else was done. -/
def ofRequests (files : Files) (requests : List (Request σ)) : Session σ α β :=
  requests.foldl (fun s r => (s.wrap r.settings r.name r.source r.state).2) { files }

/-- Something is done with one of the functions. -/
def step (s : Session σ α β) (x : Nat × Step α) : Session σ α β :=
  match x.2 with
  | .call a => ((s.call colors (bodies x.1) x.1 a).map (·.2)).getD s
  | .clear => s.clear x.1

def after (s : Session σ α β) (steps : List (Nat × Step α)) : Session σ α β :=
  steps.foldl (step colors bodies) s

/-- What can be seen of a step: what a call gives and shows, and what is then known of the function. -/
structure Sight (β : Type) where
  reply : Option (Reply β)
  bundle : Option Bundle
  cached : Option Nat

def sight (s : Session σ α β) (x : Nat × Step α) : Sight β where
  reply := match x.2 with
    | .call a => (s.call colors (bodies x.1) x.1 a).map (·.1)
    | .clear => none
  bundle := ((s.step colors bodies x).handle? x.1).map (·.audited.bundle)
  cached := ((s.step colors bodies x).handle? x.1).map (·.audited.cached)

/-- What can be seen of steps, each with the number of its function. -/
def sights (s : Session σ α β) : List (Nat × Step α) → List (Nat × Sight β)
  | [] => []
  | x :: steps => (x.1, s.sight colors bodies x) :: (s.step colors bodies x).sights steps

/-- What a step leaves behind in the files and where, with functions as they are in `s` and used in the past: the line
of a function that has to run, if its log can be opened. -/
def written? (s : Session σ α β) (past : List (Nat × Step α)) : Nat × Step α → Option (Files.Place × List Char)
  | (_, .clear) => none
  | (i, .call a) => (s.handle? i).bind fun h =>
    if Step.isAnswered h.audited.memo.capacity (Step.own i past) a then none
    else (h.audited.target? s.files).map (·, h.audited.line)

/-- What steps leave behind in the files, in their order. -/
def written (s : Session σ α β) (past : List (Nat × Step α)) : List (Nat × Step α) → List (Files.Place × List Char)
  | [] => []
  | x :: steps => (s.written? past x).toList ++ s.written (past ++ [x]) steps

variable {colors bodies}

omit [BEq α] in
theorem handle?_set {s : Session σ α β} {i : Nat} {h : Handle σ α β} (known : s.handle? i = some h)
    (h' : Handle σ α β) (files : Files) (j : Nat) :
    (⟨s.handles.set i (some h'), files⟩ : Session σ α β).handle? j = if j = i then some h' else s.handle? j := by
  have within : i < s.handles.length := by
    refine Nat.lt_of_not_le fun beyond => ?_
    rw [handle?, List.getElem?_eq_none beyond] at known
    contradiction
  by_cases same : j = i
  · subst same
    simp [handle?, within]
  · simp [handle?, same, Ne.symm same]

/-- A step does to its own function what it would do to it alone, and nothing to others. -/
theorem handle?_step (s : Session σ α β) (x : Nat × Step α) (j : Nat) :
    (s.step colors bodies x).handle? j =
      if j = x.1 then (s.handle? j).map (·.step colors (bodies j) x.2) else s.handle? j := by
  obtain ⟨i, step⟩ := x
  cases known : s.handle? i with
  | none =>
    have unchanged : s.step colors bodies (i, step) = s := by
      cases step <;> simp [Session.step, call, clear, known]
    rw [unchanged]
    by_cases same : j = i
    · simp [same, known]
    · simp [same]
  | some h =>
    have changed : ∃ files, s.step colors bodies (i, step) =
        ⟨s.handles.set i (some (h.step colors (bodies i) step)), files⟩ := by
      cases step with
      | clear => exact ⟨s.files, by simp [Session.step, clear, known, Handle.step]⟩
      | call a =>
        obtain ⟨-, audited, state, -⟩ :=
          Audited.call_frame colors (bodies i) h.audited h.state a { files := s.files } { files := {} }
        refine ⟨(h.audited.call colors (bodies i) h.state { files := s.files } a).surroundings.files, ?_⟩
        simp [Session.step, call, known, Handle.step, audited, state]
    obtain ⟨files, changed⟩ := changed
    rw [changed, handle?_set known]
    by_cases same : j = i
    · simp [same, known]
    · simp [same]

/-- After any steps a function is as if its own were the only ones. -/
theorem handle?_after (s : Session σ α β) (steps : List (Nat × Step α)) (i : Nat) :
    (s.after colors bodies steps).handle? i =
      (s.handle? i).map (·.after colors (bodies i) (Step.own i steps)) := by
  induction steps generalizing s with
  | nil => simp [after, Step.own, Handle.after]
  | cons x rest ih =>
    have first : (s.after colors bodies (x :: rest)).handle? i =
        ((s.step colors bodies x).handle? i).map (·.after colors (bodies i) (Step.own i rest)) := ih _
    rw [first, handle?_step]
    by_cases mine : x.1 = i
    · subst mine
      simp [Step.own, Handle.after, Function.comp_def]
    · simp [Step.own, mine, Ne.symm mine]

/-- What is seen of a step depends on its function alone. -/
theorem sight_congr {s t : Session σ α β} {x : Nat × Step α} (same : s.handle? x.1 = t.handle? x.1) :
    s.sight colors bodies x = t.sight colors bodies x := by
  obtain ⟨i, step⟩ := x
  have reply (a : α) : (s.call colors (bodies i) i a).map (·.1) = (t.call colors (bodies i) i a).map (·.1) := by
    unfold call
    rw [same, Option.map_map, Option.map_map]
    congr 1
    funext h
    obtain ⟨result, -, -, shown⟩ :=
      Audited.call_frame colors (bodies i) h.audited h.state a { files := s.files } { files := t.files }
    simp [result, shown]
  cases step with
  | clear => simp only [sight, handle?_step, if_pos, same]
  | call a => simp only [sight, handle?_step, if_pos, same, reply]

/-- What is seen of the steps of a function among others is what is seen of them without the others. -/
theorem sights_filter {s t : Session σ α β} {i : Nat} (same : s.handle? i = t.handle? i)
    (steps : List (Nat × Step α)) :
    (s.sights colors bodies steps).filter (·.1 = i) = t.sights colors bodies (steps.filter (·.1 = i)) := by
  induction steps generalizing s t with
  | nil => rfl
  | cons x rest ih =>
    by_cases mine : x.1 = i
    · subst mine
      have next : (s.step colors bodies x).handle? x.1 = (t.step colors bodies x).handle? x.1 := by
        rw [handle?_step, handle?_step, same]
      simp [sights, sight_congr same, ih next]
    · have next : (s.step colors bodies x).handle? i = t.handle? i := by
        rw [handle?_step, if_neg (Ne.symm mine), same]
      simp [sights, mine, ih next]

/-- Nothing was done with the functions yet, and a new look at their sources finds nothing new. -/
def Fresh (s : Session σ α β) : Prop :=
  ∀ i h, s.handle? i = some h → h.audited.memo.entries = [] ∧ h.audited.currentBundle = h.audited.bundle

theorem wrap_fresh {s : Session σ α β} (fresh : s.Fresh) (settings : Settings) (name source : String) (state : σ) :
    (s.wrap settings name source state).2.Fresh := by
  intro i h known
  rcases Nat.lt_or_ge i s.handles.length with old | new
  · rw [handle?, wrap, List.getElem?_append_left old] at known
    exact fresh i h known
  · rw [handle?, wrap, List.getElem?_append_right new, List.getElem?_singleton] at known
    split at known
    · cases wrapped : (Audited.wrap settings name source : Except Failure (Audited α β)) with
      | error failure =>
        rw [wrapped] at known
        contradiction
      | ok f =>
        rw [wrapped] at known
        obtain rfl := Option.some.inj known
        have start := (wrap_invariant wrapped state { files := {} }).follows.arguments
        exact ⟨by simpa using start, Audited.currentBundle_of_wrap wrapped⟩
    · contradiction

theorem ofRequests_fresh (files : Files) (requests : List (Request σ)) :
    (ofRequests files requests : Session σ α β).Fresh := by
  have wrapped (s : Session σ α β) (fresh : s.Fresh) :
      (requests.foldl (fun s r => (s.wrap r.settings r.name r.source r.state).2) s).Fresh := by
    induction requests generalizing s with
    | nil => exact fresh
    | cons r rest ih => exact ih _ (wrap_fresh fresh r.settings r.name r.source r.state)
  refine wrapped { files } fun i h known => ?_
  simp [handle?] at known

omit [BEq α] in
theorem ofRequests_files (files : Files) (requests : List (Request σ)) :
    (ofRequests files requests : Session σ α β).files = files := by
  have kept (s : Session σ α β) :
      (requests.foldl (fun s r => (s.wrap r.settings r.name r.source r.state).2) s).files = s.files := by
    induction requests generalizing s with
    | nil => rfl
    | cons r rest ih => exact ih _
  exact kept { files }

variable [EquivBEq α]

/-- A step after others leaves its line behind, or it changes no file. -/
theorem step_files {s : Session σ α β} (fresh : s.Fresh) {past : List (Nat × Step α)}
    {before : List (Files.Place × List Char)} (received : s.files.Received (s.after colors bodies past).files before)
    (x : Nat × Step α) :
    let s' := s.after colors bodies past
    (s.written? past x = none ∧ (s'.step colors bodies x).files = s'.files) ∨
      ∃ e, s.written? past x = some e ∧ s'.files.Received (s'.step colors bodies x).files [e] := by
  intro s'
  obtain ⟨i, a | -⟩ := x
  · have used : s'.handle? i = (s.handle? i).map (·.after colors (bodies i) (Step.own i past)) := handle?_after s past i
    cases known : s.handle? i with
    | none =>
      rw [known, Option.map_none] at used
      exact .inl ⟨by simp [written?, known], by simp [step, call, used]⟩
    | some h =>
      obtain ⟨clean, current⟩ := fresh i h known
      let h' := h.after colors (bodies i) (Step.own i past)
      have used : s'.handle? i = some h' := by rw [used, known, Option.map_some]
      have found : (h'.audited.memo.find? a).isSome = Step.isAnswered h.audited.memo.capacity (Step.own i past) a :=
        Handle.found_iff_isAnswered clean (Step.own i past) a
      obtain ⟨bundle, current', target, line⟩ := Audited.log_eq_of_memo
        (Handle.after_audited colors (bodies i) h (Step.own i past))
      have called : (s'.step colors bodies (i, .call a)).files =
          (h'.audited.call colors (bodies i) h'.state { files := s'.files } a).surroundings.files := by
        simp [step, call, used]
      cases answered : Step.isAnswered h.audited.memo.capacity (Step.own i past) a with
      | true =>
        refine .inl ⟨by simp [written?, known, answered], ?_⟩
        rw [called, Audited.files_of_found (found.trans answered)]
      | false =>
        rw [called, Audited.files_of_missing (found.trans answered)]
        have logged := Audited.log_received h'.audited (current'.trans (current.trans bundle.symm)) s'.files
        have sameTarget : h'.audited.target? s'.files = h.audited.target? s.files := by
          rw [target, Audited.target?, Audited.target?]
          exact congrArg _ (funext received.target?_eq)
        cases target' : h.audited.target? s.files with
        | none =>
          refine .inl ⟨by simp [written?, known, target'], ?_⟩
          exact Audited.log_of_missing (sameTarget.trans target') _
        | some place =>
          rw [sameTarget, target'] at logged
          refine .inr ⟨(place, h.audited.line), by simp [written?, known, answered, target'], ?_⟩
          rw [← line]
          exact logged
  · refine .inl ⟨rfl, ?_⟩
    simp only [step, clear]
    split <;> rfl

theorem after_received {s : Session σ α β} (fresh : s.Fresh) {past : List (Nat × Step α)}
    {before : List (Files.Place × List Char)} (received : s.files.Received (s.after colors bodies past).files before)
    (steps : List (Nat × Step α)) :
    s.files.Received (s.after colors bodies (past ++ steps)).files (before ++ s.written past steps) := by
  induction steps generalizing past before with
  | nil => simpa [written] using received
  | cons x rest ih =>
    have next :
        s.files.Received (s.after colors bodies (past ++ [x])).files (before ++ (s.written? past x).toList) := by
      have last : s.after colors bodies (past ++ [x]) = (s.after colors bodies past).step colors bodies x := by
        simp [after]
      rw [last]
      obtain ⟨missing, same⟩ | ⟨e, present, added⟩ := step_files fresh received x
      · rw [missing, same]
        simpa using received
      · rw [present]
        exact received.trans added
    simpa [written] using ih next

end Session

/-- Whatever functions were wrapped, whatever the files hold and whatever is done with the functions in whatever order,
the files hold in the end what they held and behind it, in the order of the calls, the line of its function for each
call that is not answered and whose log can be opened. A log can be opened in the end if it could be at the start. Each
function and what is seen of its steps is what it would be if the steps of the others were left out. -/
theorem shared_files [BEq α] [EquivBEq α] (colors : Bool) (bodies : Nat → Body σ α β) (files : Files)
    (requests : List (Session.Request σ)) (steps : List (Nat × Step α)) :
    let s : Session σ α β := .ofRequests files requests
    let s' := s.after colors bodies steps
    let written := s.written [] steps
    files.Received s'.files written ∧
      (∀ path place, files.target? path = some place → files.get? place ≠ some (.file none) →
        (s'.files.text? path).getD [] =
          (files.text? path).getD [] ++ ((written.filter (·.1 = place)).map (·.2)).flatten) ∧
      (∀ path line, files.target? path = none ↔ (Log.append s'.files path line).toOption = none) ∧
      (∀ x, s.written? steps x = none → (s'.step colors bodies x).files = s'.files) ∧
      ∀ i, s'.handle? i = (s.after colors bodies (steps.filter (·.1 = i))).handle? i ∧
        (s.sights colors bodies steps).filter (·.1 = i) = s.sights colors bodies (steps.filter (·.1 = i)) := by
  intro s s' written
  have start : s.files = files := Session.ofRequests_files files requests
  have fresh : s.Fresh := Session.ofRequests_fresh files requests
  have unused : s.files.Received (s.after colors bodies []).files [] := s.files.received_nil
  have received : s.files.Received s'.files written := Session.after_received fresh unused steps
  rw [← start]
  refine ⟨received, fun path place target text => received.text?_getD target text, fun path line => ?_, ?_, ?_⟩
  · rw [← received.target?_eq]
    obtain ⟨missing, fault, failed⟩ | ⟨place, fs, target, appended, -⟩ := s'.files.append_cases path (Log.record line)
    · simp [missing, Log.append, failed, Except.toOption]
    · simp [target, Log.append, appended, Except.toOption]
  · intro x unwritten
    obtain ⟨-, unchanged⟩ | ⟨e, written, -⟩ := Session.step_files fresh received x
    · exact unchanged
    · rw [unwritten] at written
      contradiction
  · intro i
    have own : Step.own i (steps.filter (·.1 = i)) = Step.own i steps := by
      simp [Step.own, List.filter_filter]
    refine ⟨?_, Session.sights_filter rfl steps⟩
    rw [Session.handle?_after, Session.handle?_after, own]

/-- Two functions write into one log. The second call of the first one is answered, and forgotten then; the other one
remembers nothing. The log of a third one is a directory. -/
theorem shared_log_of_two :
    let settings (log : String) (capacity : Nat) : Settings :=
      { audit := { logFile := some log, cacheCapacity := capacity } }
    let requests : List (Session.Request Nat) :=
      [⟨settings "a" 1, "f", "def f(x):\n  return x\n", 0⟩, ⟨settings "a" 0, "g", "def g(x):\n  return x\n", 0⟩,
        ⟨settings "." 0, "h", "def h(x):\n  return x\n", 0⟩]
    let files : Files := ⟨[(["a"], .file (some ['-', '\n']))]⟩
    let steps : List (Nat × Step Nat) :=
      [(0, .call 3), (1, .call 3), (0, .call 3), (2, .call 3), (1, .call 3), (0, .clear), (0, .call 3)]
    let s : Session Nat Nat Nat := .ofRequests files requests
    ∃ f g : Handle Nat Nat Nat, s.handle? 0 = some f ∧ s.handle? 1 = some g ∧
      ((s.after false (fun _ n a => (a + n, n + 1)) steps).files.text? "a").getD [] =
        ['-', '\n'] ++ (f.audited.line ++ g.audited.line ++ g.audited.line ++ f.audited.line) := by
  intro settings requests files steps s
  have wrapped (i : Nat) (log : String) (capacity : Nat)
      (as : (s.handle? i).map (fun h => (h.audited.options.logFile, h.audited.memo.capacity)) =
        some (some log, capacity)) :
      ∃ h, s.handle? i = some h ∧ h.audited.options.logFile = some log ∧ h.audited.memo.capacity = capacity := by
    obtain ⟨h, known, same⟩ := Option.map_eq_some_iff.mp as
    obtain ⟨log, capacity⟩ := Prod.mk.inj same
    exact ⟨h, known, log, capacity⟩
  obtain ⟨f, f_known, f_log, f_capacity⟩ := wrapped 0 "a" 1 (by decide +kernel)
  obtain ⟨g, g_known, g_log, g_capacity⟩ := wrapped 1 "a" 0 (by decide +kernel)
  obtain ⟨h, h_known, h_log, -⟩ := wrapped 2 "." 0 (by decide +kernel)
  have shared : files.target? "a" = some ["a"] := by cbv
  have directory : files.target? "." = none := by cbv
  have target : s.files = files := Session.ofRequests_files files requests
  have written : s.written [] steps =
      [f.audited.line, g.audited.line, g.audited.line, f.audited.line].map (["a"], ·) := by
    simp [steps, Session.written, Session.written?, f_known, g_known, h_known, Audited.target?, f_log, g_log, h_log,
      f_capacity, g_capacity, target, shared, directory, Step.isAnswered, Step.own, Step.recent, Step.track]
  obtain ⟨-, text, -⟩ := shared_files false (fun _ n a => (a + n, n + 1)) files requests steps
  refine ⟨f, g, f_known, g_known, ?_⟩
  have before : files.text? "a" = some ['-', '\n'] := by cbv
  rw [text "a" ["a"] shared (by decide), written, before]
  simp

end CodeAudit
