import CodeAudit.Proofs.Syntax.Clean

/-! The place that a refusal names. The search for faults leaves out what lies in nodes that are free of errors. As long
as these hold no fault, it finds the first one in pre-order. The nodes of every text are like that, also where stray text
is not marked as an error by itself. -/
namespace CodeAudit.Syntax

open Node

variable {text : List Char} {root n : Node} {cs : List Node}

namespace Node

/-- Each node tells exactly whether a fault is in it, be that the node itself. -/
def Flagged (root : Node) : Prop :=
  ∀ n ∈ root.nodes, n.label.hasError = true ↔ ∃ m ∈ n.nodes, m.isFault = true

instance (root : Node) : Decidable root.Flagged :=
  inferInstanceAs (Decidable (∀ n ∈ root.nodes, n.label.hasError = true ↔ ∃ m ∈ n.nodes, m.isFault = true))

/-- The first fault in pre-order: a node that is a fault, with none in front of it. -/
def FirstFault (root n : Node) : Prop :=
  ∃ before after, root.nodes = before ++ n :: after ∧ n.isFault = true ∧ ∀ m ∈ before, m.isFault = false

theorem find?_isFault_eq_some_iff : root.nodes.find? isFault = some n ↔ root.FirstFault n := by
  rw [List.find?_eq_some_iff_append]
  constructor
  · rintro ⟨fault, before, after, split, sound⟩
    exact ⟨before, after, split, fault, fun m member => by simpa using sound m member⟩
  · rintro ⟨before, after, split, fault, sound⟩
    exact ⟨fault, before, after, split, fun m member => by simpa using sound m member⟩

theorem nodes_subset (member : n ∈ root.nodes) : n.nodes ⊆ root.nodes := by
  induction root using Node.induct with
  | mk l cs ih =>
    rw [nodes_mk] at member
    rcases List.mem_cons.mp member with rfl | below
    · exact List.Subset.refl _
    · obtain ⟨c, child, below⟩ := List.mem_flatMap.mp below
      exact fun m inner => mem_nodes_of_child child (ih c child below inner)

theorem mem_nodes_of_below {m : Node} (below : m ∈ nodesOf n.children) : m ∈ n.nodes := by
  obtain ⟨l, cs⟩ := n
  exact List.mem_cons_of_mem _ below

theorem Flagged.clean_iff (flagged : root.Flagged) (member : n ∈ root.nodes) :
    n.Clean ↔ ∀ m ∈ n.nodes, m.isFault = false := by
  rw [Clean, ← Bool.not_eq_true, flagged n member]
  simp only [not_exists, not_and, Bool.not_eq_true]

/-- Where the flags are right, there is no fault below a node free of errors. -/
theorem Flagged.closed (flagged : root.Flagged) : ∀ n ∈ root.nodes, n.Closed := by
  intro n member clean m below
  have below := mem_nodes_of_below below
  have sound := (flagged.clean_iff member).mp clean
  refine ⟨(flagged.clean_iff (nodes_subset member below)).mpr fun k inner => ?_, sound m below⟩
  exact sound k (nodes_subset below inner)

theorem firstFaultIn?_eq (each : ∀ c ∈ cs, c.firstFault? = (c.nodes.find? isFault).map (·.label.start)) :
    firstFaultIn? cs = ((nodesOf cs).find? isFault).map (·.label.start) := by
  induction cs with
  | nil => rfl
  | cons c rest ih =>
    obtain ⟨first, others⟩ := List.forall_mem_cons.mp each
    rw [firstFaultIn?, first, ih others, nodesOf, List.find?_append, Option.map_or]

/-- What the search leaves out is no fault, so it finds what a search through all nodes would find. -/
theorem firstFault?_eq (closed : ∀ n ∈ root.nodes, n.Closed) :
    root.firstFault? = (root.nodes.find? isFault).map (·.label.start) := by
  induction root using Node.induct with
  | mk l cs ih =>
    rw [firstFault?, nodes, List.find?_cons]
    cases fault : (mk l cs).isFault with
    | true => rfl
    | false =>
      cases error : l.hasError with
      | true => exact firstFaultIn?_eq fun c child => ih c child fun n member => closed n (mem_nodes_of_child child member)
      | false =>
        -- The nodes below are left out here, but a search through all nodes goes on with them.
        have sound : (nodesOf cs).find? isFault = none := by
          rw [List.find?_eq_none]
          intro m below
          simp [(closed _ (self_mem_nodes _) error m below).2]
        rw [sound]
        rfl

theorem firstFault?_eq_none_iff (closed : ∀ n ∈ root.nodes, n.Closed) :
    root.firstFault? = none ↔ ∀ n ∈ root.nodes, n.isFault = false := by
  rw [firstFault?_eq closed, Option.map_eq_none_iff, List.find?_eq_none]
  simp only [Bool.not_eq_true]

theorem firstFault?_eq_some_iff (closed : ∀ n ∈ root.nodes, n.Closed) {p : Position} :
    root.firstFault? = some p ↔ ∃ n, root.FirstFault n ∧ n.label.start = p := by
  simp only [firstFault?_eq closed, Option.map_eq_some_iff, find?_isFault_eq_some_iff]

end Node

/-- The node that a whole text shows, with or without errors. -/
def shown? (text : List Char) : Option Node :=
  (parse? text).bind fun t => (ofTree none t).head?

/-- What is read of a text depends on its node only. -/
theorem read_of_shown (shown : shown? text = some root) :
    read text = if root.label.hasError then
      .error (root.firstFault?.elim (.fault 1 1) fun p => .fault (p.row + 1) (p.column + 1))
    else .ok root := by
  unfold read
  split
  · next none => exact absurd (shown.symm.trans none) nofun
  · next n found =>
    obtain rfl : n = root := Option.some.inj (found.symm.trans shown)
    cases n.firstFault? <;> rfl

theorem read_of_clean (shown : shown? text = some root) (clean : root.label.hasError = false) :
    read text = .ok root := by
  rw [read_of_shown shown, clean]
  rfl

theorem read_of_fault (shown : shown? text = some root) (error : root.label.hasError = true) {p : Position}
    (found : root.firstFault? = some p) : read text = .error (.fault (p.row + 1) (p.column + 1)) := by
  rw [read_of_shown shown, error, found]
  rfl

theorem read_of_faultless (shown : shown? text = some root) (error : root.label.hasError = true)
    (none : root.firstFault? = none) : read text = .error (.fault 1 1) := by
  rw [read_of_shown shown, error, none]
  rfl

/-- Where the flags are right, the search for a fault comes to nothing exactly if there is none, and otherwise it finds
where the first one in the order of the text begins; it never comes to nothing where an error is said to be. So a text
with such nodes is accepted if there is no fault among them, and else refused with the line and the column of the first
one. -/
theorem refusal_of_flagged {root : Node} (flagged : root.Flagged) :
    (root.firstFault? = none ↔ ∀ n ∈ root.nodes, n.isFault = false) ∧
      (∀ p, root.firstFault? = some p ↔ ∃ n, root.FirstFault n ∧ n.label.start = p) ∧
      (root.label.hasError = true → root.firstFault? ≠ none) ∧
      ∀ text, shown? text = some root →
        ((∀ n ∈ root.nodes, n.isFault = false) ∧ read text = .ok root) ∨
          ∃ n, root.FirstFault n ∧
            read text = .error (.fault (n.label.start.row + 1) (n.label.start.column + 1)) := by
  have none_iff := firstFault?_eq_none_iff flagged.closed
  have clean_iff := flagged.clean_iff (self_mem_nodes root)
  have finds : root.label.hasError = true → root.firstFault? ≠ none := fun error none =>
    absurd (error.symm.trans (clean_iff.mpr (none_iff.mp none))) (by decide)
  refine ⟨none_iff, fun p => firstFault?_eq_some_iff flagged.closed, finds, fun text shown => ?_⟩
  cases error : root.label.hasError with
  | false => exact .inl ⟨clean_iff.mp error, read_of_clean shown error⟩
  | true =>
    obtain ⟨p, found⟩ := Option.ne_none_iff_exists'.mp (finds error)
    obtain ⟨n, first, rfl⟩ := (firstFault?_eq_some_iff flagged.closed).mp found
    exact .inr ⟨n, first, read_of_fault shown error found⟩

/-- Two faults in a text: a word too many, and behind it a bracket that is missing. -/
theorem refusal_of_two_faults :
    let text := "g(x y)\ndef h(:\n    pass\n".toList
    ∃ root, shown? text = some root ∧ root.Flagged ∧ root.nodes.countP isFault = 2 ∧
      (∃ n, root.FirstFault n ∧ read text = .error (.fault (n.label.start.row + 1) (n.label.start.column + 1))) ∧
      read text = .error (.fault 1 5) := by
  intro text
  have facts : (shown? text).any fun root => decide (root.Flagged ∧ root.nodes.countP isFault = 2 ∧
      (root.nodes.find? isFault).map (fun n => (n.label.start.row, n.label.start.column)) = some (0, 4)) := by
    decide +kernel
  obtain ⟨root, shown, facts⟩ := (Option.any_eq_true ..).mp facts
  obtain ⟨flagged, two, place⟩ := of_decide_eq_true facts
  obtain ⟨first, found, place⟩ := Option.map_eq_some_iff.mp place
  obtain ⟨row, column⟩ := Prod.mk.inj place
  obtain ⟨-, -, -, outcome⟩ := refusal_of_flagged flagged
  rcases outcome text shown with ⟨none, -⟩ | ⟨n, fault, refused⟩
  · exact absurd (List.find?_some found) (by simp [none first (List.mem_of_find?_eq_some found)])
  · obtain rfl : n = first := Option.some.inj ((find?_isFault_eq_some_iff.mpr fault).symm.trans found)
    exact ⟨root, shown, flagged, two, ⟨n, fault, refused⟩, by rw [refused, row, column]⟩

/-- In the nodes of a text, nothing is a fault that lies in a node free of errors. -/
theorem closed_of_shown (shown : shown? text = some root) : ∀ n ∈ root.nodes, n.Closed := by
  obtain ⟨t, parsed, first⟩ := Option.bind_eq_some_iff.mp shown
  intro n member
  refine closed_of_whole (whole_of_parse? parsed) n ?_
  rw [nodesOf_eq]
  exact List.mem_flatMap.mpr ⟨root, List.mem_of_mem_head? first, member⟩

/-- What becomes of a text whose nodes are given: it is accepted, and there is no fault below the root; or it is refused
with the line and the column of the first fault; or it is refused as a whole, because something is missing in it that
would not be shown. -/
theorem read_cases (shown : shown? text = some root) :
    (root.label.hasError = false ∧ (∀ n ∈ nodesOf root.children, n.isFault = false) ∧ read text = .ok root) ∨
      (root.label.hasError = true ∧ ∃ n, root.FirstFault n ∧
        read text = .error (.fault (n.label.start.row + 1) (n.label.start.column + 1))) ∨
      (root.label.hasError = true ∧ (∀ n ∈ root.nodes, n.isFault = false) ∧ read text = .error (.fault 1 1)) := by
  have closed := closed_of_shown shown
  cases error : root.label.hasError with
  | false =>
    have below := closed root (self_mem_nodes root) error
    exact .inl ⟨rfl, fun n member => (below n member).2, read_of_clean shown error⟩
  | true =>
    cases found : root.firstFault? with
    | none => exact .inr (.inr ⟨rfl, (firstFault?_eq_none_iff closed).mp found, read_of_faultless shown error found⟩)
    | some p =>
      obtain ⟨n, first, rfl⟩ := (firstFault?_eq_some_iff closed).mp found
      exact .inr (.inl ⟨rfl, n, first, read_of_fault shown error found⟩)

/-- A line feed that is missing between two statements is not shown. -/
example : (shown? "exec import 1".toList).map (fun n => (n.label.hasError, n.firstFault?)) = some (true, none) := by
  decide +kernel

end CodeAudit.Syntax
