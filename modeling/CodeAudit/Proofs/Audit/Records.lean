import CodeAudit.Proofs.Audit.Sharing
import CodeAudit.Proofs.Json.Written
import CodeAudit.Proofs.Text.Lines

/-! The lines of a log. Each run adds one record, which is one line only if the name of its function is. -/
namespace CodeAudit

variable {σ α β : Type}

theorem Report.printable_text (r : Report) : Json.Printable r.text :=
  Json.printable_compact (Json.reportCodec.encode r)

/-- The only line ends within a record are those of the name. -/
theorem count_lineFeed_logLine (name : String) (complexity : Nat) (r : Report) :
    (logLine name complexity r).count '\n' = name.toList.count '\n' := by
  have report : r.text.count '\n' = 0 := List.count_eq_zero.mpr r.printable_text.not_mem_lineFeed
  have number : (Nat.toDigits 10 complexity).count '\n' = 0 :=
    List.count_eq_zero.mpr (Json.printable_digits complexity).not_mem_lineFeed
  have first : "Function: ".toList.count '\n' = 0 := by decide
  have second : " | Complexity: ".toList.count '\n' = 0 := by decide
  have third : " | Anti-patterns: ".toList.count '\n' = 0 := by decide
  unfold logLine
  rw [List.count_append, report, List.count_append, third, List.count_append, number, List.count_append, second,
    List.count_append, first, Nat.zero_add]
  rfl

theorem getLast?_logLine (name : String) (complexity : Nat) (r : Report) :
    (logLine name complexity r).getLast? = some '\x7d' := by
  unfold logLine
  rw [List.getLast?_append, r.getLast?_text, Option.some_or]

/-- A record is one line of a log exactly if its name has no line end. -/
theorem lines_logLine_iff (name : String) (complexity : Nat) (r : Report) :
    Text.lines (logLine name complexity r ++ ['\n']) = [logLine name complexity r] ↔ '\n' ∉ name.toList := by
  constructor
  · intro one
    have counted := Text.length_lines (Text.ended_concat (logLine name complexity r))
    rw [one, List.count_append, count_lineFeed_logLine, List.length_singleton] at counted
    exact List.count_eq_zero.mp (by simpa using counted)
  · intro one
    refine Text.lines_concat ?_ (by rw [getLast?_logLine]; decide)
    rw [← List.count_eq_zero, count_lineFeed_logLine]
    exact List.count_eq_zero.mpr one

/-- A name of two lines whose record reads as those of two other functions. -/
theorem lines_forged {name g f : String} {complexity : Nat} {r : Report}
    (spelled : name.toList = g.toList ++ " | Complexity: ".toList ++ Nat.toDigits 10 complexity ++
      " | Anti-patterns: ".toList ++ r.text ++ "\nFunction: ".toList ++ f.toList)
    (one : '\n' ∉ g.toList) (other : '\n' ∉ f.toList) :
    Text.lines (logLine name complexity r ++ ['\n']) = [logLine g complexity r, logLine f complexity r] := by
  have second : "\nFunction: ".toList = '\n' :: "Function: ".toList := rfl
  have split : logLine name complexity r ++ ['\n'] =
      (logLine g complexity r ++ ['\n']) ++ (logLine f complexity r ++ ['\n']) := by
    unfold logLine
    rw [spelled, second]
    simp only [List.append_assoc, List.cons_append, List.nil_append]
  rw [split, Text.lines_append (Text.ended_concat _), (lines_logLine_iff g complexity r).mpr one,
    (lines_logLine_iff f complexity r).mpr other, List.singleton_append]

/-- The record of the function as it is. -/
def Audited.record (f : Audited α β) : List Char :=
  logLine f.name f.currentBundle.complexity f.currentBundle.report

namespace Session

variable [BEq α] (colors : Bool) (bodies : Nat → Body σ α β)

/-- The function that a step runs, if it is a call for which nothing is remembered and the log of its function is in a
place. -/
def runs? (s : Session σ α β) (place : Files.Place) : Nat × Step α → Option (Audited α β)
  | (_, .clear) => none
  | (i, .call a) => ((s.handle? i).map (·.audited)).filter fun f =>
    (f.memo.find? a).isNone && f.target? s.files = some place

/-- The functions that steps run and whose log is in a place, in the order of the runs. -/
def runs (s : Session σ α β) (place : Files.Place) : List (Nat × Step α) → List (Audited α β)
  | [] => []
  | x :: steps => (s.runs? place x).toList ++ (s.step colors bodies x).runs place steps

omit [BEq α] in
/-- Functions are numbered in the order in which they were wrapped. -/
theorem ofRequests_handles (files : Files) (requests : List (Request σ)) :
    (ofRequests files requests : Session σ α β).handles =
      requests.map fun r => (Audited.wrap r.settings r.name r.source).toOption.map (⟨·, r.state⟩) := by
  have added (s : Session σ α β) :
      (requests.foldl (fun s r => (s.wrap r.settings r.name r.source r.state).2) s).handles =
        s.handles ++ requests.map fun r => (Audited.wrap r.settings r.name r.source).toOption.map (⟨·, r.state⟩) := by
    induction requests generalizing s with
    | nil => simp
    | cons r rest ih =>
      rw [List.foldl_cons, ih]
      simp [wrap]
  exact (added { files }).trans (List.nil_append _)

/-- A step adds the record of the function that it runs to its log. -/
theorem step_received (s : Session σ α β) (place : Files.Place) (x : Nat × Step α) :
    ∃ written, s.files.Received (s.step colors bodies x).files written ∧
      (written.filter (·.1 = place)).map (·.2) = (s.runs? place x).toList.map (·.record ++ ['\n']) := by
  obtain ⟨i, a | -⟩ := x
  · cases known : s.handle? i with
    | none => exact ⟨[], by simpa [step, call, known] using s.files.received_nil, by simp [runs?, known]⟩
    | some h =>
      have called : (s.step colors bodies (i, .call a)).files =
          (h.audited.call colors (bodies i) h.state { files := s.files } a).surroundings.files := by
        simp [step, call, known]
      rw [called]
      cases found : h.audited.memo.find? a with
      | some hit =>
        rw [Audited.files_of_found (by simp [found])]
        exact ⟨[], s.files.received_nil, by simp [runs?, known, found]⟩
      | none =>
        rw [Audited.files_of_missing (by simp [found])]
        refine ⟨_, h.audited.received_log h.audited.currentBundle s.files, ?_⟩
        cases target : h.audited.target? s.files with
        | none => simp [runs?, known, found, target]
        | some other =>
          by_cases here : other = place
          · subst here
            simp [runs?, known, Option.filter, found, target, Audited.record]
          · simp [runs?, known, Option.filter, found, target, here]
  · refine ⟨[], ?_, rfl⟩
    have unchanged : (s.step colors bodies (i, .clear)).files = s.files := by
      simp only [step, clear]
      split <;> rfl
    rw [unchanged]
    exact s.files.received_nil

/-- What logs take does not change where they are. -/
theorem target?_step (s : Session σ α β) (x : Nat × Step α) (f : Audited α β) :
    f.target? (s.step colors bodies x).files = f.target? s.files := by
  obtain ⟨written, received, -⟩ := s.step_received colors bodies [] x
  exact congrArg f.options.logFile.bind (funext received.target?_eq)

theorem runs_received (s : Session σ α β) (place : Files.Place) (steps : List (Nat × Step α)) :
    ∃ written, s.files.Received (s.after colors bodies steps).files written ∧
      (written.filter (·.1 = place)).map (·.2) = (s.runs colors bodies place steps).map (·.record ++ ['\n']) := by
  induction steps generalizing s with
  | nil => exact ⟨[], s.files.received_nil, rfl⟩
  | cons x steps ih =>
    obtain ⟨first, received, records⟩ := s.step_received colors bodies place x
    obtain ⟨rest, received', records'⟩ := ih (s.step colors bodies x)
    refine ⟨first ++ rest, received.trans received', ?_⟩
    rw [List.filter_append, List.map_append, records, records', runs, List.map_append]

/-- A log grows by the records of the runs. -/
theorem text?_after (s : Session σ α β) {path : String} {place : Files.Place}
    (target : s.files.target? path = some place) (text : s.files.get? place ≠ some (.file none))
    (steps : List (Nat × Step α)) :
    ((s.after colors bodies steps).files.text? path).getD [] =
      (s.files.text? path).getD [] ++ Text.unlines ((s.runs colors bodies place steps).map Audited.record) := by
  obtain ⟨written, received, records⟩ := s.runs_received colors bodies place steps
  rw [received.text?_getD target text, records, Text.unlines, List.flatMap_map, List.flatMap_def]

end Session

/-- Whatever was done with functions before, as long as their log can be opened and what it holds ends with a line end,
it grows by one record for each run, in the order of the runs. Its lines are those that it had and behind them those of
the records: one for each run and one more for each line end in the name of its function. They are the records
themselves exactly if no such name has a line end. -/
theorem lines_of_log [BEq α] (colors : Bool) (bodies : Nat → Body σ α β) (s : Session σ α β) {path : String}
    {place : Files.Place} (target : s.files.target? path = some place) (text : s.files.get? place ≠ some (.file none))
    (ended : Text.Ended ((s.files.text? path).getD [])) (steps : List (Nat × Step α)) :
    let s' := s.after colors bodies steps
    let runs := s.runs colors bodies place steps
    let new := Text.unlines (runs.map Audited.record)
    (s'.files.text? path).getD [] = (s.files.text? path).getD [] ++ new ∧
      Text.lines ((s'.files.text? path).getD []) = Text.lines ((s.files.text? path).getD []) ++ Text.lines new ∧
      Text.lines new = runs.flatMap (fun f => Text.lines (f.record ++ ['\n'])) ∧
      (Text.lines new).length = runs.length + (runs.map (·.name.toList.count '\n')).sum ∧
      (Text.lines new = runs.map Audited.record ↔ ∀ f ∈ runs, '\n' ∉ f.name.toList) := by
  intro s' runs new
  have grown := s.text?_after colors bodies target text steps
  have split : Text.lines new = runs.flatMap (fun f => Text.lines (f.record ++ ['\n'])) := by
    rw [Text.lines_unlines, List.flatMap_map]
  have count (f : Audited α β) : (Text.lines (f.record ++ ['\n'])).length = 1 + f.name.toList.count '\n' := by
    rw [Text.length_lines (Text.ended_concat _), List.count_append, Audited.record, count_lineFeed_logLine]
    exact Nat.add_comm _ _
  have length : (Text.lines new).length = runs.length + (runs.map (·.name.toList.count '\n')).sum := by
    rw [split, List.length_flatMap]
    simp only [count, List.sum_map_add, List.map_const', List.sum_replicate, smul_eq_mul, mul_one]
  refine ⟨grown, ?_, split, length, ?_, ?_⟩
  · rw [grown, Text.lines_append ended]
  · intro same f member
    rw [same, List.length_map] at length
    have zero : (runs.map (·.name.toList.count '\n')).sum = 0 := by omega
    exact List.count_eq_zero.mp (List.sum_eq_zero_iff.mp zero _ (List.mem_map_of_mem member))
  · intro plain
    have each (f : Audited α β) (member : f ∈ runs) : Text.lines (f.record ++ ['\n']) = [f.record] :=
      (lines_logLine_iff _ _ _).mpr (plain f member)
    rw [split, List.flatMap_congr each, ← List.map_eq_flatMap]

/-- There is nothing to find either if the function returns further in. -/
theorem analyze_indented_return : analyze {} "def f(x):\n    return x\n" = .ok ⟨1, .empty, 0, 0⟩ :=
  eq_ok_of_toOption (by decide +kernel)

/-- Two functions write into one log. The second call of the first one is answered. -/
theorem lines_of_shared_log :
    let settings : Settings := { audit := { logFile := some "a" } }
    let source := "def f(x):\n    return x\n"
    let requests : List (Session.Request Nat) := [⟨settings, "f", source, 0⟩, ⟨settings, "g", source, 0⟩]
    let files : Files := ⟨[(["a"], .file (some ['-', '\n']))]⟩
    let steps : List (Nat × Step Nat) := [(0, .call 3), (0, .call 3), (1, .call 3)]
    let s : Session Nat Nat Nat := .ofRequests files requests
    Text.lines (((s.after false (fun _ n a => (a + n, n + 1)) steps).files.text? "a").getD []) =
      [['-'], logLine "f" 1 ⟨.empty, 0, 0⟩, logLine "g" 1 ⟨.empty, 0, 0⟩] := by
  intro settings source requests files steps s
  let found : Analysis := ⟨1, .empty, 0, 0⟩
  let f (name : String) : Audited Nat Nat := .of settings name source found
  have wrapped (name : String) : Audited.wrap settings name source = .ok (f name) :=
    Audited.wrap_eq_ok.mpr ⟨found, analyze_indented_return, rfl⟩
  have handles : s.handles = [some ⟨f "f", 0⟩, some ⟨f "g", 0⟩] := by
    rw [Session.ofRequests_handles]
    simp only [requests, List.map_cons, List.map_nil, wrapped]
    rfl
  have first : s.handle? 0 = some ⟨f "f", 0⟩ := by simp [Session.handle?, handles]
  have second : s.handle? 1 = some ⟨f "g", 0⟩ := by simp [Session.handle?, handles]
  have same : s.files = files := Session.ofRequests_files files requests
  have target : s.files.target? "a" = some ["a"] := by rw [same]; cbv
  have before : s.files.text? "a" = some ['-', '\n'] := by rw [same]; cbv
  have opened (name : String) : (f name).target? s.files = some ["a"] := target
  have empty (name : String) : (f name).memo = { capacity := 128 } := rfl
  have named (name : String) : (f name).name = name := rfl
  have record (name : String) : (f name).record = logLine name 1 ⟨.empty, 0, 0⟩ := rfl
  have runs : s.runs false (fun _ n a => (a + n, n + 1)) ["a"] steps = [f "f", f "g"] := by
    have called : (⟨f "f", 0⟩ : Handle Nat Nat Nat).step false (fun n a => (a + n, n + 1)) (.call 3) =
        ⟨{ f "f" with memo := ⟨128, [(3, 3)]⟩ }, 1⟩ := by
      simp only [Handle.step, Audited.call, empty]
      rfl
    simp [steps, Session.runs, Session.runs?, Session.handle?_step, Session.target?_step, first, second, opened,
      empty, called, Memo.find?, Option.filter]
  obtain ⟨-, lines, -, -, plain⟩ := lines_of_log false (fun _ n a => (a + n, n + 1)) s target
    (by rw [same]; decide) (by rw [before]; exact Text.ended_concat ['-']) steps
  have one : ∀ f ∈ s.runs false (fun _ n a => (a + n, n + 1)) ["a"] steps, '\n' ∉ f.name.toList := by
    simp [runs, named]
  rw [lines, before, plain.mpr one, runs, List.map_cons, List.map_singleton, record, record]
  rfl

/-- A name that ends one record and begins another one. -/
theorem forged_record :
    let settings : Settings := { audit := { logFile := some "a" } }
    let name := "g | Complexity: 1 | Anti-patterns: \x7b\"detected_patterns\":[],\"max_nesting_depth\":0," ++
      "\"conditional_depth\":0\x7d\nFunction: f"
    let source := "def f(x):\n    return x\n"
    let requests : List (Session.Request Nat) := [⟨settings, name, source, 0⟩]
    let files : Files := {}
    let steps : List (Nat × Step Nat) := [(0, .call 1)]
    let s : Session Nat Nat Nat := .ofRequests files requests
    (s.runs false (fun _ n a => (a, n + 1)) ["a"] steps).length = 1 ∧
      Text.lines (((s.after false (fun _ n a => (a, n + 1)) steps).files.text? "a").getD []) =
        [logLine "g" 1 ⟨.empty, 0, 0⟩, logLine "f" 1 ⟨.empty, 0, 0⟩] := by
  intro settings name source requests files steps s
  let found : Analysis := ⟨1, .empty, 0, 0⟩
  let f : Audited Nat Nat := .of settings name source found
  have wrapped : Audited.wrap settings name source = .ok f :=
    Audited.wrap_eq_ok.mpr ⟨found, analyze_indented_return, rfl⟩
  have handles : s.handles = [some ⟨f, 0⟩] := by
    rw [Session.ofRequests_handles]
    simp only [requests, List.map_cons, List.map_nil, wrapped]
    rfl
  have first : s.handle? 0 = some ⟨f, 0⟩ := by simp [Session.handle?, handles]
  have same : s.files = files := Session.ofRequests_files files requests
  have target : s.files.target? "a" = some ["a"] := by rw [same]; cbv
  have before : s.files.text? "a" = none := by rw [same]; cbv
  have opened : f.target? s.files = some ["a"] := target
  have empty : f.memo = { capacity := 128 } := rfl
  have runs : s.runs false (fun _ n a => (a, n + 1)) ["a"] steps = [f] := by
    simp [steps, Session.runs, Session.runs?, first, opened, Memo.find?, empty, Option.filter]
  have record : f.record = logLine name 1 ⟨.empty, 0, 0⟩ := rfl
  rw [runs, s.text?_after false (fun _ n a => (a, n + 1)) target (by rw [same]; decide) steps, before, runs,
    Option.getD_none, List.nil_append, List.map_singleton, record, Text.unlines, List.flatMap_singleton]
  exact ⟨rfl, lines_forged (by rw [String.toList_append]; decide +kernel) (by decide) (by decide)⟩

end CodeAudit
