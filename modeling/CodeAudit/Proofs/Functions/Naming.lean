import CodeAudit.Proofs.Functions.Listing

/-! Asking for a function by its qualified name. A dot tells the qualified names of methods from all bare names, so
that only a function of the module itself may be taken for another one. -/
namespace CodeAudit.FunctionSource

open Syntax

variable {module : String} {fs front back : List FunctionSource} {f g : FunctionSource}

theorem describes_of_mem {text : List Char} {sites : List Site} (each : List.Forall₂ (Describes text) sites fs)
    (member : f ∈ fs) : ∃ s, Describes text s f := by
  induction each with
  | nil => exact absurd member List.not_mem_nil
  | @cons s _ _ _ describes _ ih =>
    rcases List.mem_cons.mp member with rfl | later
    · exact ⟨s, describes⟩
    · exact ih later

theorem describes_of_list (listed : list module = .ok fs) (member : f ∈ fs) : ∃ s, Describes module.toList s f := by
  obtain ⟨root, accepted, rfl⟩ := list_eq_ok_iff.mp listed
  obtain ⟨c, c', lists⟩ := lists_of_module accepted
  exact describes_of_mem lists.each member

theorem dot_notMem_name {text : List Char} {s : Site} (describes : Describes text s f) : '.' ∉ f.name.toList := by
  obtain ⟨i, -, identifier⟩ := describes.name
  exact fun member => absurd (identifier.letters '.' member) (by decide)

theorem dot_mem_intercalate {classes : List String} (around : classes ≠ []) (name : String) :
    '.' ∈ (".".intercalate (classes ++ [name])).toList := by
  obtain ⟨first, rest, rfl⟩ := List.exists_cons_of_ne_nil around
  rw [List.cons_append, String.intercalate_cons_of_ne_nil (by simp)]
  simp

/-- A qualified name is the bare name, or there is a dot in it. -/
theorem qualifiedName_eq_or_dot {text : List Char} {s : Site} (describes : Describes text s f) :
    f.qualifiedName = f.name ∨ '.' ∈ f.qualifiedName.toList := by
  obtain ⟨classes, -, same⟩ := describes.qualifiedName
  rw [same]
  by_cases bare : classes = []
  · exact .inl (by rw [bare, List.nil_append, String.intercalate_singleton])
  · exact .inr (dot_mem_intercalate bare f.name)

section Unique

variable (unique : (front ++ f :: back).countP (·.qualifiedName = f.qualifiedName) = 1)

include unique

theorem qualifiedName_ne_of_unique : ∀ g ∈ front, g.qualifiedName ≠ f.qualifiedName := by
  have none : front.countP (·.qualifiedName = f.qualifiedName) = 0 := by
    simp only [List.countP_append, List.countP_cons, decide_true, if_true] at unique
    omega
  simpa using List.countP_eq_zero.mp none

/-- In front of a function with a qualified name of its own, functions can only go by that name as a bare one. -/
theorem named?_of_unique :
    named? f.qualifiedName (front ++ f :: back) = (front.find? (·.name = f.qualifiedName)).or (some f) := by
  have others := qualifiedName_ne_of_unique unique
  have same : front.filter (goesBy f.qualifiedName) = front.filter (·.name = f.qualifiedName) :=
    List.filter_congr fun g earlier => by simp [goesBy, others g earlier]
  have own : goesBy f.qualifiedName f := by simp [goesBy]
  rw [named?, List.find?_append, ← List.head?_filter, same, List.head?_filter, List.find?_cons_of_pos own]

end Unique

/-- A function that has its qualified name for itself is found by it, unless it is a function of the module itself and
a method in front of it has the same bare name: then the first such method is found. -/
theorem extract_qualifiedName (listed : list module = .ok fs) (member : f ∈ fs)
    (unique : fs.countP (·.qualifiedName = f.qualifiedName) = 1) :
    ∃ front back, fs = front ++ f :: back ∧
      extract module f.qualifiedName = .ok ((front.find? (·.name = f.qualifiedName)).getD f) ∧
      ∀ g ∈ front, g.name = f.qualifiedName → f.qualifiedName = f.name ∧ g.qualifiedName ≠ g.name := by
  obtain ⟨front, back, rfl⟩ := List.append_of_mem member
  refine ⟨front, back, rfl, ?_, fun g earlier name => ?_⟩
  · rw [extract, listed]
    cases found : front.find? (·.name = f.qualifiedName) <;> simp [Except.bind, named?_of_unique unique, found]
  · obtain ⟨_, describes⟩ := describes_of_list listed (List.mem_append_left _ earlier)
    obtain ⟨_, mine⟩ := describes_of_list listed member
    refine ⟨(qualifiedName_eq_or_dot mine).resolve_right (name ▸ dot_notMem_name describes), ?_⟩
    rw [name]
    exact qualifiedName_ne_of_unique unique g earlier

/-- A method and a function behind it with the same bare name are both listed. -/
theorem list_of_method_and_function :
    list "class A:\n    def f(self):\n        pass\n\ndef f():\n    pass\n" =
      .ok [{ name := "f", qualifiedName := "A.f", line := 2, source := "def f(self):\n    pass\n" },
        { name := "f", qualifiedName := "f", line := 5, source := "def f():\n    pass\n" }] :=
  eq_ok_of_toOption (by decide +kernel)

/-- A method is found by its qualified name though a function behind it has the same bare name. -/
theorem extract_qualified_method :
    let module := "class A:\n    def f(self):\n        pass\n\ndef f():\n    pass\n"
    let f : FunctionSource :=
      { name := "f", qualifiedName := "A.f", line := 2, source := "def f(self):\n    pass\n" }
    let fs : List FunctionSource :=
      [f, { name := "f", qualifiedName := "f", line := 5, source := "def f():\n    pass\n" }]
    list module = .ok fs ∧ fs.countP (·.qualifiedName = f.qualifiedName) = 1 ∧
      ∃ front back, fs = front ++ f :: back ∧
        extract module f.qualifiedName = .ok ((front.find? (·.name = f.qualifiedName)).getD f) ∧
        ∀ g ∈ front, g.name = f.qualifiedName → f.qualifiedName = f.name ∧ g.qualifiedName ≠ g.name := by
  intro module f fs
  have listed : list module = .ok fs := list_of_method_and_function
  have unique : fs.countP (·.qualifiedName = f.qualifiedName) = 1 := by simp [fs, f]
  exact ⟨listed, unique, extract_qualifiedName listed (List.mem_cons_self ..) unique⟩

/-- A function of the module itself is hidden by a method in front of it with the same bare name, though no other
function has its qualified name. -/
theorem method_hides_function :
    let module := "class A:\n    def f(self):\n        pass\n\ndef f():\n    pass\n"
    let f : FunctionSource := { name := "f", qualifiedName := "f", line := 5, source := "def f():\n    pass\n" }
    ∃ fs, list module = .ok fs ∧ f ∈ fs ∧ fs.countP (·.qualifiedName = f.qualifiedName) = 1 ∧
      extract module f.qualifiedName ≠ .ok f := by
  intro module f
  let method : FunctionSource :=
    { name := "f", qualifiedName := "A.f", line := 2, source := "def f(self):\n    pass\n" }
  have listed : list module = .ok [method, f] := list_of_method_and_function
  have found : extract module f.qualifiedName = .ok method := by
    rw [extract, listed]
    rfl
  refine ⟨[method, f], listed, by simp, by simp [method, f], ?_⟩
  rw [found]
  intro same
  have other : method.line = f.line := congrArg line (Except.ok.inj same)
  exact absurd other (by decide)

end CodeAudit.FunctionSource
