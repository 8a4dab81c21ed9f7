import CodeAudit.Proofs.CommandLine.Entries

/-! The two formats of one analysis, and the analysis of one function among all of them. -/
namespace CodeAudit.CommandLine

open FunctionSource Syntax

section Legible

open FunctionEntry (Legible)

theorem legible_of_identifier {text word : List Char} {n : Node} (identifier : n.IsIdentifier text word) :
    Legible word := by
  intro c member
  by_contra control
  have each : ∀ n < 33, Text.isIdentifierPart (.ofNat n) = false := by decide +kernel
  have other := each c.toNat (by omega)
  rw [Char.ofNat_toNat, identifier.letters c member] at other
  cases other

/-- The names of functions and classes are identifiers, with nothing but dots between them. -/
theorem legible_of_describes {text : List Char} {s : Site} {f : FunctionSource} (describes : Describes text s f) :
    Legible f.qualifiedName.toList := by
  have legible {n : Node} {name : String} (named : n.GoesBy text name) : Legible name.toList := by
    obtain ⟨_, -, identifier⟩ := named
    exact legible_of_identifier identifier
  obtain ⟨classes, each, same⟩ := describes.qualifiedName
  have outer : ∀ name ∈ classes, Legible name.toList := by
    clear same
    generalize s.above.reverse.filter _ = around at each
    induction each with
    | nil => simp
    | cons named _ ih => exact List.forall_mem_cons.mpr ⟨legible named, ih⟩
  rw [same, String.toList_intercalate]
  refine Text.forall_mem_intercalate (by simp) fun l member => ?_
  obtain ⟨name, known, rfl⟩ := List.mem_map.mp member
  rcases List.mem_append.mp known with above | own
  · exact outer name above
  · obtain rfl := List.mem_singleton.mp own
    exact legible describes.name

variable {read : ReadFile} {r : AnalyzeRequest} {settings : Settings} {module : List Char} {xs : List Analyzed}

theorem Succeeds.legible (succeeds : Succeeds read r settings module xs) :
    ∀ x ∈ xs, Legible x.1.qualifiedName.toList := by
  intro x member
  obtain ⟨fs, listed, selects⟩ := succeeds.selects
  obtain ⟨s, describes⟩ := describes_of_list listed (selects.mem (List.mem_map_of_mem member))
  exact legible_of_describes describes

end Legible

/-! ### Runs that only differ in how they show things -/

section Runs

variable {read : ReadFile} {r : AnalyzeRequest} {race : Race Trouble} {t : Trouble} {xs : List Analyzed}

theorem runs_of_error (failed : analyzed read r race = .error t) (colors : Bool) (format : OutputFormat)
    (shown : List Char) : (analyzing colors read { r with format } race).run shown = (.error t, shown) := by
  have same : analyzed read { r with format } race = .error t := failed
  rw [run_analyzing, same]

theorem runs_of_ok (done : analyzed read r race = .ok xs) (colors : Bool) (format : OutputFormat) (shown : List Char) :
    (analyzing colors read { r with format } race).run shown =
      (.ok (exitOf r.strict xs), shown ++ output colors format xs) := by
  have same : analyzed read { r with format } race = .ok xs := done
  rw [run_analyzing, same]

end Runs

/-! ### One function among all of them -/

open FunctionEntry (Agrees of ofText? ofJson? summaries ofText?_output ofJson?_output ofText?_json)

/-- Runs that are restricted to a name show what the whole run shows for the first function that has it as its bare or
as its qualified name. -/
inductive ShowsFirst (read : ReadFile) (r : AnalyzeRequest) (xs : List Analyzed) (name : String) : Prop where
  | missing (others : ∀ x ∈ xs, x.1.qualifiedName ≠ name ∧ x.1.name ≠ name)
      (fails : ∀ race colors format shown,
        (analyzing colors read { r with function := some name, format } race).run shown =
          (.error ⟨["Failed to extract functions from " ++ r.file], .failure (.functionNotFound name)⟩, shown))
  | first {front back : List Analyzed} {x : Analyzed} {exit : Exit} (split : xs = front ++ x :: back)
      (named : x.1.qualifiedName = name ∨ x.1.name = name)
      (others : ∀ y ∈ front, y.1.qualifiedName ≠ name ∧ y.1.name ≠ name)
      (runs : ∀ race colors format shown,
        (analyzing colors read { r with function := some name, format } race).run shown =
          (.ok exit, shown ++ output colors format [x]))
      (text : ∀ colors, output colors .text xs =
        summaries colors front ++ (output colors .text [x] ++ summaries colors back))
      (json : ∀ colors, ∃ before v after, before.length = front.length ∧
        Json.ofText? (output colors .json xs) = some (.array (before ++ v :: after)) ∧
        Json.ofText? (output colors .json [x]) = some (.array [v]))

section Restricted

variable {read : ReadFile} {r : AnalyzeRequest} {settings : Settings} {module : List Char} {xs : List Analyzed}

theorem output_text_split (colors : Bool) (front : List Analyzed) (x : Analyzed) (back : List Analyzed) :
    output colors .text (front ++ x :: back) =
      summaries colors front ++ (output colors .text [x] ++ summaries colors back) := by
  have alone : output colors .text [x] = summaries colors [x] := rfl
  have all : output colors .text (front ++ x :: back) = summaries colors (front ++ x :: back) := by
    cases front <;> rfl
  rw [all, alone, summaries, summaries, summaries, summaries]
  simp

theorem output_json_split (colors : Bool) (front : List Analyzed) (x : Analyzed) (back : List Analyzed) :
    ∃ before v after, before.length = front.length ∧
      Json.ofText? (output colors .json (front ++ x :: back)) = some (.array (before ++ v :: after)) ∧
      Json.ofText? (output colors .json [x]) = some (.array [v]) := by
  refine ⟨front.map toJson, toJson x, back.map toJson, List.length_map .., ?_, ofText?_json colors [x]⟩
  rw [ofText?_json, List.map_append, List.map_cons]

/-- The functions of a whole module are searched from the first one on. -/
theorem Succeeds.showsFirst (succeeds : Succeeds read r settings module xs) (whole : r.function = none)
    (name : String) : ShowsFirst read r xs name := by
  obtain ⟨given, ⟨fs, listed, selects⟩, each⟩ := succeeds
  rw [whole] at selects
  obtain rfl : fs = xs.map (·.1) := by
    generalize xs.map (·.1) = selected at selects
    cases selects
    rfl
  have given' : Given read { r with function := some name } settings module := ⟨given.settings, given.module⟩
  obtain ⟨selected, chosen⟩ | ⟨_, same, others⟩ := selects_or_missing (xs.map (·.1)) (some name)
  · have selection := select_of_selects listed chosen
    cases chosen with
    | @first _ f front back split named others =>
      obtain ⟨front, rest, rfl, rfl, same⟩ := List.map_eq_append_iff.mp split
      obtain ⟨x, back, rfl, rfl, rfl⟩ := List.map_eq_cons_iff.mp same
      have analysis : ∀ y ∈ [x], analyze settings.thresholds y.1.source = .ok y.2 := by
        simpa using each x (by simp)
      have done (race : Race Trouble) : analyzed read { r with function := some name } race = .ok [x] :=
        (analyzed_eq_ok_iff given').mpr ⟨selection, analysis⟩
      have runs := fun race => runs_of_ok (done race)
      exact .first rfl named (by simpa using others) runs (output_text_split · front x back)
        (output_json_split · front x back)
  · obtain rfl := Option.some.inj same
    have failed := analyzed_of_missing given' listed rfl others
    have fails := fun race => runs_of_error (failed race)
    exact .missing (by simpa using others) fails

end Restricted

/-- Runs that differ in their format both fail or both succeed, and end alike if they succeed. Each failure that an
analysis can have is the one of some run, whatever the format; two runs have different ones only if there are two
functions that cannot be analyzed, and these are what they are about. What runs show says the same: it has the same
functions in the order of the module, each with the same findings, and a text says that there are no patterns exactly
where a JSON list of patterns is empty. If all functions have been analyzed, a run that is restricted to a name shows
what is shown there for the first function that has it. -/
theorem formats_agree (read : ReadFile) (r : AnalyzeRequest) :
    ((∃ t, Fails read r t) ∧
      (∀ race, ∃ t, Fails read r t ∧ ∀ colors format shown,
        (analyzing colors read { r with format } race).run shown = (.error t, shown)) ∧
      (∀ t, Fails read r t → ∃ race, ∀ colors format shown,
        (analyzing colors read { r with format } race).run shown = (.error t, shown)) ∧
      ∀ t t', Fails read r t → Fails read r t' →
        t = t' ∨ ∃ f f', f ≠ f' ∧ FailsAt read r f t ∧ FailsAt read r f' t') ∨
    ∃ settings module xs exit,
      (∀ race, analyzed read r race = .ok xs) ∧ Succeeds read r settings module xs ∧
      (∃ sites, List.Forall₂ (Describes module) sites (xs.map (·.1)) ∧
        sites.Pairwise fun a b => a.node.label.stop.offset ≤ b.node.label.start.offset) ∧
      (∀ race colors format shown, (analyzing colors read { r with format } race).run shown =
        (.ok exit, shown ++ output colors format xs)) ∧
      (∃ texts objects, ofText? (output false .text xs) = some texts ∧
        ofJson? (output false .json xs) = some objects ∧ List.Forall₂ Agrees texts objects ∧
        objects = xs.map fun x => of x x.2.report.patterns) ∧
      (r.function = none → ∀ name, ShowsFirst read r xs name) := by
  by_cases can : ∃ t, Fails read r t
  · refine .inl ⟨can, fun race => ?_, fun t fails => ?_, fun t t' => Fails.eq_or_failsAt⟩
    · obtain ⟨t, failed, fails⟩ | ⟨settings, module, xs, done, succeeds⟩ := analyzed_cases read r race
      · exact ⟨t, fails, runs_of_error failed⟩
      · obtain ⟨t, fails⟩ := can
        exact absurd fails succeeds.not_fails
    · obtain ⟨race, failed⟩ := fails_iff.mp fails
      exact ⟨race, runs_of_error failed⟩
  · obtain ⟨t, -, fails⟩ | ⟨settings, module, xs, -, succeeds⟩ := analyzed_cases read r .first
    · exact absurd ⟨t, fails⟩ can
    · refine .inr ⟨settings, module, xs, exitOf r.strict xs, succeeds.analyzed_eq, succeeds, succeeds.ordered,
        fun race => runs_of_ok (succeeds.analyzed_eq race),
        ⟨_, _, ofText?_output succeeds.legible, ofJson?_output false xs, ?_, rfl⟩, succeeds.showsFirst⟩
      rw [List.forall₂_map_left_iff, List.forall₂_map_right_iff, List.forall₂_same]
      exact fun x _ => FunctionEntry.agrees x

/-- A method with a pattern and a function with its bare name, which is shown only where no name is given. -/
theorem formats_of_hidden_function :
    let module := "class A:\n    def f(self):\n        global y\n\ndef f():\n    pass\n"
    let read : ReadFile := fun path => if path = "m.py" then .ok module.toList else .error .missing
    let r : AnalyzeRequest := { file := "m.py", strict := true }
    ∃ x y texts objects, x.1.qualifiedName = "A.f" ∧ y.1.qualifiedName = "f" ∧
      (∀ race colors format shown, (analyzing colors read { r with format } race).run shown =
        (.ok .patternsFound, shown ++ output colors format [x, y])) ∧
      ofText? (output false .text [x, y]) = some texts ∧ ofJson? (output false .json [x, y]) = some objects ∧
      List.Forall₂ Agrees texts objects ∧ texts.map (·.patterns) = ["\x7bglobal_variable\x7d".toList, "none".toList] ∧
      ∃ exit, ∀ race colors format shown,
        (analyzing colors read { r with function := some "f", format } race).run shown =
          (.ok exit, shown ++ output colors format [x]) := by
  intro module read r
  let x : Analyzed := (
    { name := "f", qualifiedName := "A.f", line := 2, source := "def f(self):\n    global y\n" },
    { complexity := 1
      report := { patterns := .ofList [.globalVariable], maxNestingDepth := 0, conditionalDepth := 0 } })
  let y : Analyzed := (
    { name := "f", qualifiedName := "f", line := 5, source := "def f():\n    pass\n" },
    { complexity := 1, report := { patterns := .empty, maxNestingDepth := 0, conditionalDepth := 0 } })
  have listed : list module = .ok [x.1, y.1] := eq_ok_of_toOption (by decide +kernel)
  have given : Given read r {} module.toList := ⟨rfl, rfl⟩
  have done : analyzed read r .first = .ok [x, y] := by
    refine (analyzed_eq_ok_iff given).mpr ⟨by rw [String.ofList_toList]; exact listed, ?_⟩
    simp only [List.forall_mem_cons]
    exact ⟨eq_ok_of_toOption (by decide +kernel), eq_ok_of_toOption (by decide +kernel), by simp⟩
  obtain ⟨-, fails, -⟩ | ⟨_, _, xs, exit, done', -, -, runs, ⟨texts, objects, text, json, agrees, -⟩, restricted⟩ :=
    formats_agree read r
  · obtain ⟨t, -, failed⟩ := fails .first
    cases (failed false .text []).symm.trans (runs_of_ok done false .text [])
  · obtain rfl := Except.ok.inj ((done' .first).symm.trans done)
    have judged : exitOf r.strict [x, y] = .patternsFound := by decide
    have outcome := (Prod.mk.inj ((runs .first false .text []).symm.trans (runs_of_ok done false .text []))).1
    obtain rfl : exit = .patternsFound := (Except.ok.inj outcome).trans judged
    have words : (ofText? (output false .text [x, y])).map (·.map (·.patterns)) =
        some ["\x7bglobal_variable\x7d".toList, "none".toList] := by decide +kernel
    rw [text] at words
    refine ⟨x, y, texts, objects, rfl, rfl, runs, text, json, agrees, Option.some.inj words, ?_⟩
    cases restricted rfl "f" with
    | missing others => exact absurd rfl (others x (by simp)).2
    | @first front back x' exit split named others runs' =>
      cases front with
      | nil =>
        obtain ⟨rfl, -⟩ := List.cons.inj split
        exact ⟨exit, runs'⟩
      | cons z front =>
        obtain ⟨rfl, -⟩ := List.cons.inj split
        exact absurd rfl (others x (by simp)).2

/-- Two methods whose bodies fall out of them when they are cut out. A run may be about either of them. -/
theorem formats_of_two_failures :
    let module := "class A:\n  def f(x):\n\treturn\n  def g(x):\n\treturn\n"
    let read : ReadFile := fun path => if path = "m.py" then .ok module.toList else .error .missing
    let r : AnalyzeRequest := { file := "m.py" }
    let about (name : String) : Trouble := ⟨["Failed to analyze '" ++ name ++ "'"], .failure (.notAFunction 1)⟩
    ∃ race race', (analyzing false read { r with format := .text } race).run [] = (.error (about "A.f"), []) ∧
      (analyzing false read { r with format := .json } race').run [] = (.error (about "A.g"), []) ∧
      about "A.f" ≠ about "A.g" := by
  intro module read r about
  let f : FunctionSource := { name := "f", qualifiedName := "A.f", line := 2, source := "def f(x):\nreturn\n" }
  let g : FunctionSource := { name := "g", qualifiedName := "A.g", line := 4, source := "def g(x):\nreturn\n" }
  have listed : list module = .ok [f, g] := eq_ok_of_toOption (by decide +kernel)
  have given : Given read r {} module.toList := ⟨rfl, rfl⟩
  have fails {h : FunctionSource} (member : h ∈ [f, g]) (failed : analyze {} h.source = .error (.notAFunction 1)) :
      ∃ race, analyzed read r race = .error (about h.qualifiedName) :=
    fails_iff.mp (.function (.intro given (by rw [String.ofList_toList]; exact listed) .all member failed))
  obtain ⟨race, first⟩ := fails (h := f) (by simp) (eq_error_of_failure? (by decide +kernel))
  obtain ⟨race', second⟩ := fails (h := g) (by simp) (eq_error_of_failure? (by decide +kernel))
  exact ⟨race, race', runs_of_error first false .text [], runs_of_error second false .json [], by decide⟩

end CodeAudit.CommandLine
