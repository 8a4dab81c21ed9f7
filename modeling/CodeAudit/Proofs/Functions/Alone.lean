import CodeAudit.Proofs.Flow.Parts
import CodeAudit.Proofs.Functions.Naming

/-! A function that stands alone in its module. What is analyzed and what is listed agree on the functions of the
module itself: they are those that are listed by their bare names. -/
namespace CodeAudit

namespace Syntax

/-- A site below a node has something around it. -/
theorem Node.above_of_mem_sites (n : Node) : ∀ above, ∀ s ∈ n.sites above, above <:+ s.above := by
  induction n using Node.induct with
  | mk l cs ih =>
    intro above s member
    rw [Node.sites, Node.sitesOf_eq] at member
    rcases List.mem_cons.mp member with rfl | below
    · exact List.suffix_rfl
    · obtain ⟨c, child, below⟩ := List.mem_flatMap.mp below
      exact (List.suffix_cons ..).trans (ih c child _ s below)

/-- The sites with nothing around them are those of the outermost nodes. -/
theorem Node.filter_outermost_sites (ns : List Node) :
    (Node.sitesOf [] ns).filter (·.above.isEmpty) = ns.map (⟨·, []⟩) := by
  have one (n : Node) : (n.sites []).filter (·.above.isEmpty) = [⟨n, []⟩] := by
    obtain ⟨l, cs⟩ := n
    rw [Node.sites, List.filter_cons_of_pos rfl, List.cons_eq_cons]
    refine ⟨rfl, List.filter_eq_nil_iff.mpr fun s below => ?_⟩
    rw [Node.sitesOf_eq] at below
    obtain ⟨c, -, below⟩ := List.mem_flatMap.mp below
    obtain ⟨_, around⟩ := c.above_of_mem_sites _ s below
    simp [← around]
  rw [Node.sitesOf_eq, List.filter_flatMap, List.flatMap_congr fun n _ => one n, List.map_eq_flatMap]

/-- A function is one of the statements that count. -/
theorem Node.counts_of_isFunction {n : Node} (function : n.isFunction) : Flow.counts n.kind := by
  have kinds : n.kind = .functionDefinition ∨ n.kind = .decoratedDefinition := by
    simp only [isFunction, Bool.or_eq_true, Bool.and_eq_true, decide_eq_true_eq] at function
    exact function.imp_right And.left
  rcases kinds with kind | kind <;> rw [kind] <;> decide

end Syntax

namespace FunctionSource

open Syntax

variable {text : List Char} {s : Site} {f : FunctionSource} {sites : List Site} {fs : List FunctionSource}

/-- There is a class around each function in a scope within the module. -/
theorem exists_class_of_isScope {n : Node} {above : List Node} (scope : isScope (n :: above)) :
    ∃ c ∈ above, c.kind = .classDefinition := by
  cases above with
  | nil => simp [isScope, isClass] at scope
  | cons c above => exact ⟨c, List.mem_cons_self .., by simp_all [isScope, isClass]⟩

/-- The qualified name is the bare name exactly for a function of the module itself. -/
theorem qualifiedName_eq_name_iff (describes : Describes text s f) (listed : s.isListed) :
    f.qualifiedName = f.name ↔ s.above = [] := by
  obtain ⟨classes, around, same⟩ := describes.qualifiedName
  constructor
  · intro bare
    cases inner : s.above with
    | nil => rfl
    | cons n above =>
      have scope : isScope (n :: above) := by
        simp only [Site.isListed, Bool.and_eq_true, inner] at listed
        exact listed.2
      obtain ⟨c, member, kind⟩ := exists_class_of_isScope scope
      have named : classes ≠ [] := by
        rintro rfl
        have none := List.forall₂_nil_right_iff.mp around
        rw [inner, List.filter_eq_nil_iff] at none
        exact none c (by simp [member]) (by simp [kind])
      rw [bare] at same
      exact absurd (same ▸ dot_mem_intercalate named f.name) (dot_notMem_name describes)
  · intro outermost
    rw [outermost] at around
    rw [same, List.forall₂_nil_left_iff.mp around, List.nil_append, String.intercalate_singleton]

/-- The functions listed by their bare names are those of the module itself. -/
theorem countP_of_describes (each : List.Forall₂ (Describes text) sites fs) (listed : ∀ s ∈ sites, s.isListed) :
    fs.countP (fun f => f.qualifiedName = f.name) = sites.countP (·.above.isEmpty) := by
  induction each with
  | nil => rfl
  | cons describes _ ih =>
    obtain ⟨head, tail⟩ := List.forall_mem_cons.mp listed
    simp only [List.countP_cons, ih tail, decide_eq_true_eq, List.isEmpty_iff, qualifiedName_eq_name_iff describes head]

/-- The outermost of the sites that are listed are those of the functions among the statements. -/
theorem countP_outermost (root : Node) :
    ((Node.sitesOf [] root.children).filter Site.isListed).countP (·.above.isEmpty) =
      (root.namedChildren.filter (·.kind ≠ .comment)).countP Node.isFunction := by
  have listed (n : Node) : Site.isListed ⟨n, []⟩ = n.isFunction := by simp [Site.isListed, isScope]
  calc ((Node.sitesOf [] root.children).filter Site.isListed).countP (·.above.isEmpty)
      = ((Node.sitesOf [] root.children).filter (·.above.isEmpty)).countP Site.isListed := by
        rw [List.countP_filter, List.countP_filter]
        exact List.countP_congr fun s _ => by rw [Bool.and_comm]
    _ = root.children.countP Node.isFunction := by
        rw [Node.filter_outermost_sites, List.countP_map]
        exact List.countP_congr fun n _ => by rw [Function.comp_apply, listed]
    _ = (root.namedChildren.filter (·.kind ≠ .comment)).countP Node.isFunction := by
        rw [Flow.filter_namedChildren, List.countP_filter]
        exact List.countP_congr fun n _ => by simpa using Node.counts_of_isFunction

theorem mem_statements_of_outermost {root : Node}
    (member : s ∈ (Node.sitesOf [] root.children).filter Site.isListed) (outermost : s.above = []) :
    s.node ∈ root.namedChildren.filter (·.kind ≠ .comment) := by
  obtain ⟨site, listed⟩ := List.mem_filter.mp member
  have first : s ∈ (Node.sitesOf [] root.children).filter (·.above.isEmpty) :=
    List.mem_filter.mpr ⟨site, List.isEmpty_iff.mpr outermost⟩
  rw [Node.filter_outermost_sites] at first
  obtain ⟨n, child, rfl⟩ := List.mem_map.mp first
  rw [Flow.filter_namedChildren]
  exact List.mem_filter.mpr ⟨child, Node.counts_of_isFunction (Bool.and_eq_true_iff.mp listed).1⟩

theorem ofNodes_eq_flatMap (module : List Char) (scope : Option String) (ns : List Node) :
    ofNodes module scope ns = ns.flatMap (ofNode module scope) := by
  induction ns with
  | nil => rfl
  | cons n ns ih => rw [ofNodes, ih, List.flatMap_cons]

/-- Nothing is listed for what does not count. -/
theorem ofNode_of_uncounted (module : List Char) (scope : Option String) {n : Node}
    (uncounted : Flow.counts n.kind = false) : ofNode module scope n = [] := by
  have other {k : Kind} (counted : Flow.counts k) : n.kind ≠ k := by
    rintro rfl
    rw [uncounted] at counted
    contradiction
  have function : ¬ n.isFunction := fun function => other (Node.counts_of_isFunction function) rfl
  rw [ofNode_eq, if_neg function, if_neg (other rfl), if_neg (other rfl)]

/-- If the only statement of a module is a function then nothing else is listed. -/
theorem length_all_le {module : List Char} {root n : Node}
    (only : root.namedChildren.filter (·.kind ≠ .comment) = [n]) (function : n.isFunction) :
    (all module root).length ≤ 1 := by
  rw [Flow.filter_namedChildren] at only
  have one : all module root = ofNode module none n := by
    rw [all, ofNodes_eq_flatMap]
    exact flatMap_of_filter only fun c _ => ofNode_of_uncounted module none
  rw [one, ofNode_eq, if_pos function]
  exact Option.length_toList_le

/-- What is analyzed is the text of a module that lists a function by its bare name and has no other statement. Of
such a module exactly this function is listed. Any other module is refused, with the number of functions that it
lists by their bare names. -/
theorem parse_alone {module : String} {root : Node} (accepted : readModule module.toList = .ok root) :
    ∃ fs, list module = .ok fs ∧
      let k := fs.countP fun f => f.qualifiedName = f.name
      let statements := root.namedChildren.filter (·.kind ≠ .comment)
      ((∃ flow, Flow.parse module.toList = .ok flow) ↔ k = 1 ∧ statements.length = 1) ∧
        (k = 1 ∧ statements.length = 1 →
          ∃ n f, statements = [n] ∧ n.isFunction ∧ fs = [f] ∧ Describes module.toList ⟨n, []⟩ f) ∧
        (¬ (k = 1 ∧ statements.length = 1) → Flow.parse module.toList = .error (.notAFunction k)) := by
  obtain ⟨c, c', lists⟩ := lists_of_module accepted
  refine ⟨all module.toList root, list_eq_ok_iff.mpr ⟨root, accepted, rfl⟩, ?_⟩
  intro k statements
  have count : k = statements.countP Node.isFunction :=
    (countP_of_describes lists.each fun s member => (List.mem_filter.mp member).2).trans (countP_outermost root)
  have parsed : Flow.parse module.toList =
      if k = 1 ∧ statements.length = 1 then .ok (Flow.ofNode root) else .error (.notAFunction k) := by
    rw [Flow.parse, accepted, count]
    simp [Except.bind, Flow.ofModule, statements]
  refine ⟨?_, ?_, fun refused => by rw [parsed, if_neg refused]⟩
  · by_cases alone : k = 1 ∧ statements.length = 1
    · exact iff_of_true ⟨_, parsed.trans (if_pos alone)⟩ alone
    · refine iff_of_false ?_ alone
      rintro ⟨flow, done⟩
      rw [parsed, if_neg alone] at done
      cases done
  · rintro ⟨one, alone⟩
    obtain ⟨n, only⟩ := List.length_eq_one_iff.mp alone
    have function : n.isFunction := by
      rw [one, only] at count
      simpa using count.symm
    have least : 1 ≤ (all module.toList root).length := one ▸ List.countP_le_length
    obtain ⟨f, single⟩ := List.length_eq_one_iff.mp (Nat.le_antisymm (length_all_le only function) least)
    have bare : f.qualifiedName = f.name := by simpa [k, single] using one
    obtain ⟨s, rest, describes, -, sites⟩ := List.forall₂_cons_right_iff.mp (single ▸ lists.each)
    have member : s ∈ (Node.sitesOf [] root.children).filter Site.isListed := sites ▸ List.mem_cons_self ..
    have outermost : s.above = [] := (qualifiedName_eq_name_iff describes (List.mem_filter.mp member).2).mp bare
    have same : s.node = n := List.mem_singleton.mp (only ▸ mem_statements_of_outermost member outermost)
    refine ⟨n, f, only, function, single, ?_⟩
    rw [← same, ← outermost]
    exact describes

/-- A decorated function with a comment behind it is refused for the class in front of it, whose method does not stand
in the module itself. -/
theorem parse_alone_of_class_and_function :
    let module := "class A:\n    def g(self): pass\n@x\ndef f(): pass\n# end\n"
    let fs : List FunctionSource :=
      [{ name := "g", qualifiedName := "A.g", line := 2, source := "def g(self): pass\n" },
        { name := "f", qualifiedName := "f", line := 3, source := "@x\ndef f(): pass\n" }]
    ∃ root, readModule module.toList = .ok root ∧ list module = .ok fs ∧
      (root.namedChildren.filter (·.kind ≠ .comment)).length = 2 ∧
      Flow.parse module.toList = .error (.notAFunction 1) := by
  intro module fs
  obtain ⟨root, accepted, read⟩ : ∃ root, readModule module.toList = .ok root ∧
      (decide (all module.toList root = fs) &&
        decide ((root.namedChildren.filter (·.kind ≠ .comment)).length = 2)) :=
    exists_ok_of_toOption (by decide +kernel)
  obtain ⟨functions, two⟩ := Bool.and_eq_true_iff.mp read
  have given : list module = .ok fs := list_eq_ok_iff.mpr ⟨root, accepted, of_decide_eq_true functions⟩
  have statements := of_decide_eq_true two
  obtain ⟨gs, listed, -, -, refused⟩ := parse_alone accepted
  have same : gs = fs := Except.ok.inj (listed.symm.trans given)
  rw [same] at refused
  exact ⟨root, accepted, given, statements, refused (by rw [statements]; decide)⟩

end FunctionSource

end CodeAudit
