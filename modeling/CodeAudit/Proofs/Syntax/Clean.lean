import CodeAudit.Proofs.Syntax.Definitions
import Mathlib.Algebra.GroupWithZero.Nat
import Mathlib.Algebra.Order.BigOperators.Group.List
import Mathlib.Algebra.Order.Group.Nat

/-! Trees that cost nothing. Nothing is missing in them and nothing was skipped, however deep; the nodes that they show
are free of errors, and so is all that lies in a node free of errors. Stray text costs nothing by itself, but it lies only
in what was skipped. -/
namespace CodeAudit.Syntax

open Node

variable {text : List Char} {place : Option Place} {places : List Place} {p : Production} {q : Place} {t : Tree}
  {cs : List Tree} {d : Digest} {c c' : Cursor} {n : Node}

/-- Each place is filled by a child. -/
theorem exists_child_of_place (fits : Production.fits.go places (Tree.filling cs)) (place : q ∈ places) :
    ∃ t ∈ cs, t.kind ∈ q.fillers ∧ ofTree (some q) t ⊆ ofTrees places cs := by
  induction cs generalizing places with
  | nil =>
    cases places with
    | nil => exact absurd place List.not_mem_nil
    | cons => contradiction
  | cons u us ih =>
    rcases fits_cons fits with ⟨extra, fits⟩ | ⟨first, rest, inner, rfl, filled, fits⟩
    · obtain ⟨t, member, filled, shown⟩ := ih fits place
      refine ⟨t, List.mem_cons_of_mem _ member, filled, ?_⟩
      rw [ofTrees, if_pos extra]
      exact List.subset_append_of_subset_right _ shown
    · rw [ofTrees, inner]
      rcases List.mem_cons.mp place with rfl | later
      · exact ⟨u, List.mem_cons_self .., filled, List.subset_append_left ..⟩
      · obtain ⟨t, member, filled, shown⟩ := ih fits later
        exact ⟨t, List.mem_cons_of_mem _ member, filled, List.subset_append_of_subset_right _ shown⟩

/-- A child is shown in one of the places or in none. -/
theorem exists_shown_of_mem (places : List Place) (member : t ∈ cs) :
    ∃ place : Option Place, (∀ q ∈ place, q ∈ places) ∧ ofTree place t ⊆ ofTrees places cs := by
  induction cs generalizing places with
  | nil => exact absurd member List.not_mem_nil
  | cons u us ih =>
    rw [ofTrees]
    split
    · rcases List.mem_cons.mp member with rfl | later
      · exact ⟨none, by simp, List.subset_append_left ..⟩
      · obtain ⟨place, listed, shown⟩ := ih places later
        exact ⟨place, listed, List.subset_append_of_subset_right _ shown⟩
    · rcases List.mem_cons.mp member with rfl | later
      · exact ⟨places.head?, fun q first => List.mem_of_mem_head? first, List.subset_append_left ..⟩
      · obtain ⟨place, listed, shown⟩ := ih places.tail later
        exact ⟨place, fun q there => List.mem_of_mem_tail (listed q there),
          List.subset_append_of_subset_right _ shown⟩

namespace Tree

theorem cost_sum (c : Cursor) (children : List (Option Place × Tree)) :
    (sum c children).cost = (((children.map (·.2)).filter (·.kind != .skipped)).map cost).sum := by
  unfold sum
  dsimp only
  split <;> rfl

theorem cost_make (p : Production) (c : Cursor) (cs : List Tree) :
    (make p c cs).cost = ((cs.filter (·.kind != .skipped)).map cost).sum := by
  rw [← map_snd_placed p.places cs, ← cost_sum c (placed p.places cs), map_snd_placed]
  rfl

/-- Whatever is skipped has its price. -/
theorem cost_skip_pos (whole extra : Bool) (c : Cursor) (cs : List Tree) : 0 < (skip whole extra c cs).cost := by
  have price : 0 < prices.recovery := by decide
  have least : prices.recovery ≤ (skip whole extra c cs).cost := by
    simp only [skip, cost, digest]
    omega
  omega

theorem Spans.not_wreck {whole extra : Bool} (spans : (wreck whole extra cs d).Spans c c') : 0 < d.cost := by
  have priced := cost_skip_pos whole extra c cs
  rw [← spans.2.1] at priced
  exact priced

/-- What costs nothing is a token or made of what costs nothing. -/
theorem cost_of_mem_make (free : (make p c cs).cost = 0) (member : t ∈ cs) (kept : t.kind ≠ .skipped) : t.cost = 0 := by
  rw [cost_make] at free
  have listed : t.cost ∈ (cs.filter (·.kind != .skipped)).map cost :=
    List.mem_map_of_mem (List.mem_filter.mpr ⟨member, by simpa using kept⟩)
  exact Nat.le_zero.mp (free ▸ List.le_sum_of_mem listed)

theorem Spans.cost_of_mem (spans : (node p cs d).Spans c c') (free : d.cost = 0) (member : t ∈ cs) : t.cost = 0 := by
  have kept := spans.kind_ne_skipped member
  obtain ⟨-, -, -, made, -⟩ := spans
  have free : (make p c cs).cost = 0 := by rw [← made]; exact free
  exact cost_of_mem_make free member kept

/-- A tree costs nothing, and it is not text that is no token. -/
def Free (t : Tree) : Prop :=
  t.cost = 0 ∧ t.IsPart

theorem Spans.free_of_mem (spans : (node p cs d).Spans c c') (free : d.cost = 0) (member : t ∈ cs) : t.Free :=
  ⟨spans.cost_of_mem free member, spans.isPart_of_mem member⟩

/-- A whole tree that costs nothing does not end with a wreck. -/
theorem free_of_make (free : (make p c cs).cost = 0)
    (kept : (∃ t ∈ cs, t.Ends) ∨ ∀ t ∈ cs, t.kind ≠ .skipped ∧ t.IsPart) : ∀ t ∈ cs, t.Free := by
  have kept := kept.resolve_left <| by
    rintro ⟨t, member, ends⟩
    have priced := cost_of_mem_make free member (by simp [ends.kind])
    obtain ⟨b, rfl⟩ := ends
    exact absurd priced (Nat.ne_of_gt (cost_skip_pos true false b []))
  exact fun t member => ⟨cost_of_mem_make free member (kept t member).1, (kept t member).2⟩

end Tree

theorem hasError_named (f : Option Field) (n : Node) : (named f n).label.hasError = n.label.hasError := by
  obtain ⟨l, cs⟩ := n
  obtain ⟨f', same⟩ := named_eq f l cs
  rw [same]
  rfl

theorem children_named (f : Option Field) (n : Node) : (named f n).children = n.children := by
  obtain ⟨l, cs⟩ := n
  obtain ⟨f', same⟩ := named_eq f l cs
  rw [same]
  rfl

/-- What is shown of children is shown of one of them, in one of the places or in none. -/
theorem mem_nodesOf_ofTrees (member : n ∈ nodesOf (ofTrees places cs)) :
    ∃ t ∈ cs, ∃ place : Option Place, (∀ q ∈ place, q ∈ places) ∧ n ∈ nodesOf (ofTree place t) := by
  induction cs generalizing places with
  | nil => simp [ofTrees, nodesOf] at member
  | cons u us ih =>
    rw [ofTrees] at member
    split at member <;> rw [nodesOf_eq, List.flatMap_append, ← nodesOf_eq, ← nodesOf_eq] at member <;>
      rcases List.mem_append.mp member with mine | later
    · exact ⟨u, List.mem_cons_self .., none, by simp, mine⟩
    · obtain ⟨t, there, place, listed, shown⟩ := ih later
      exact ⟨t, List.mem_cons_of_mem _ there, place, listed, shown⟩
    · exact ⟨u, List.mem_cons_self .., places.head?, fun q first => List.mem_of_mem_head? first, mine⟩
    · obtain ⟨t, there, place, listed, shown⟩ := ih later
      exact ⟨t, List.mem_cons_of_mem _ there, place, fun q one => List.mem_of_mem_tail (listed q one), shown⟩

/-- No error lies in a node. -/
def Node.Clean (n : Node) : Prop :=
  n.label.hasError = false

/-- No error lies in a node, nor is it one itself. -/
def Node.Faultless (n : Node) : Prop :=
  n.Clean ∧ n.isFault = false

/-- Below a node free of errors there is no error. -/
def Node.Closed (n : Node) : Prop :=
  n.Clean → ∀ m ∈ nodesOf n.children, m.Faultless

theorem clean_named {f : Option Field} : (named f n).Clean ↔ n.Clean := by
  rw [Clean, hasError_named, Clean]

theorem faultless_named {f : Option Field} : (named f n).Faultless ↔ n.Faultless := by
  obtain ⟨l, cs⟩ := n
  obtain ⟨f', same⟩ := named_eq f l cs
  rw [same]
  exact Iff.rfl

theorem Node.Closed.named {f : Option Field} (closed : n.Closed) : (named f n).Closed := by
  rw [Closed, clean_named, children_named]
  exact closed

theorem closed_of_leaf (l : Label) : (Node.mk l []).Closed := by
  simp [Closed, nodesOf]

/-- Nothing is shown as an error instead of what it is. -/
def Place.isHonest (q : Place) : Bool :=
  q.shown != some .error

theorem Grammar.isHonest_of_mem (known : IsProduction p) : ∀ q ∈ p.places, q.isHonest := by
  have checked : ∀ r ∈ reductions, ∀ p ∈ r, ∀ q ∈ p.places, q.isHonest := by decide +kernel
  obtain ⟨r, listed, member⟩ := known
  exact checked r listed p member

theorem faultless_mk {l : Label} (clean : l.hasError = false) (there : l.missing = false) {k : Kind}
    (honest : ∀ q ∈ place, q.isHonest) (kind : l.kind = (place.bind Place.shown).getD k) (sound : k ≠ .error)
    (ns : List Node) : (Node.mk l ns).Faultless := by
  refine ⟨clean, ?_⟩
  have shown : l.kind ≠ .error := by
    rw [kind]
    cases place with
    | none => exact sound
    | some q =>
      have honest := honest q rfl
      cases other : q.shown <;> simp_all [Place.isHonest]
  simp [isFault, shown, there]

/-- A tree shows no error in a node that is free of errors, and none at all if it is free itself. -/
def Tree.Honest (t : Tree) : Prop :=
  ∀ (place : Option Place) (c c' : Cursor), (∀ q ∈ place, q.isHonest) → t.Spans c c' →
    ∀ n ∈ nodesOf (ofTree place t), (t.Free → n.Faultless) ∧ n.Closed

theorem Tree.Honest.ofTrees (all : ∀ t ∈ cs, t.Honest) (honest : ∀ q ∈ places, q.isHonest)
    (spans : Tree.SpanAll cs c c') :
    ∀ n ∈ nodesOf (ofTrees places cs), ((∀ t ∈ cs, t.Free) → n.Faultless) ∧ n.Closed := by
  intro n member
  obtain ⟨t, there, place, listed, shown⟩ := mem_nodesOf_ofTrees member
  obtain ⟨b, b', -, inner⟩ := spans.of_mem there
  obtain ⟨faultless, closed⟩ := all t there place b b' (fun q one => honest q (listed q one)) inner n shown
  exact ⟨fun free => faultless (free t there), closed⟩

theorem Tree.honest (t : Tree) : t.Honest := by
  have unnamed {ns : List Node} {f : Option Field} {free : Prop}
      (all : ∀ n ∈ nodesOf ns, (free → n.Faultless) ∧ n.Closed) :
      ∀ n ∈ nodesOf (ns.map (named f)), (free → n.Faultless) ∧ n.Closed := by
    intro n member
    rcases mem_nodesOf_map_named member with old | ⟨m, listed, rfl⟩
    · exact all n old
    · obtain ⟨faultless, closed⟩ := all m (mem_nodesOf listed)
      exact ⟨fun free => faultless_named.mpr (faultless free), closed.named⟩
  induction t using Tree.induct with
  | leaf t =>
    intro place c c' honest spans n member
    rw [ofTree] at member
    split at member
    · rw [nodesOf_singleton] at member
      obtain rfl := List.mem_singleton.mp member
      exact ⟨fun free => faultless_mk rfl rfl honest rfl (free.2 t rfl) [], closed_of_leaf _⟩
    · simp [nodesOf] at member
  | missing k p =>
    intro place c c' honest spans n member
    have priced : (Tree.missing k p).cost ≠ 0 := by simp [cost, digest, prices]
    refine ⟨fun free => absurd free.1 priced, ?_⟩
    rw [ofTree] at member
    split at member
    · rw [nodesOf_singleton] at member
      obtain rfl := List.mem_singleton.mp member
      exact closed_of_leaf _
    · simp [nodesOf] at member
  | node p cs d ih =>
    intro place c c' honest spans
    have inner := Tree.Honest.ofTrees ih (Grammar.isHonest_of_mem spans.1) spans.2.2.2.2
    have below : ∀ n ∈ nodesOf (ofTrees p.places cs), (d.cost = 0 → n.Faultless) ∧ n.Closed := fun n member =>
      ⟨fun free => (inner n member).1 fun t there => spans.free_of_mem free there, (inner n member).2⟩
    have others : ∀ n ∈ nodesOf (ofTrees p.places cs), ((Tree.node p cs d).Free → n.Faultless) ∧ n.Closed :=
      fun n member => ⟨fun free => (below n member).1 free.1, (below n member).2⟩
    rw [ofTree]
    split
    · rw [nodesOf_singleton]
      refine List.forall_mem_cons.mpr ⟨⟨fun free => ?_, fun clean m member => ?_⟩, others⟩
      · have free : d.cost = 0 := free.1
        exact faultless_mk (by simp [free]) rfl honest rfl (Grammar.sound_kinds spans.1).1.1 _
      · exact (below m member).1 (by simpa [Clean] using clean)
    · exact unnamed others
  | wreck whole extra cs d ih =>
    intro place c c' honest spans
    have priced : d.cost ≠ 0 := Nat.ne_of_gt spans.not_wreck
    have nowhere : ∀ q ∈ ([] : List Place), q.isHonest := by simp
    have inner := Tree.Honest.ofTrees ih nowhere spans.2.2
    have others : ∀ n ∈ nodesOf (ofTrees [] cs), ((Tree.wreck whole extra cs d).Free → n.Faultless) ∧ n.Closed :=
      fun n member => ⟨fun free => absurd free.1 priced, (inner n member).2⟩
    rw [ofTree]
    split
    · rw [nodesOf_singleton]
      refine List.forall_mem_cons.mpr ⟨⟨fun free => absurd free.1 priced, fun clean => ?_⟩, others⟩
      exact absurd (by simpa [Clean] using clean) priced
    · exact unnamed others

/-- Nothing that a whole tree shows in a node free of errors is a fault. -/
theorem closed_of_whole (whole : t.Whole text) : ∀ n ∈ nodesOf (ofTree none t), n.Closed := by
  obtain ⟨b, c, cs, -, spans, ⟨p, inner, known, -, -, kept, rfl⟩ | ⟨entire, rfl⟩⟩ := whole
  · have honest := Tree.Honest.ofTrees (fun t _ => t.honest) (Grammar.isHonest_of_mem known) spans
    rw [Tree.make, ofTree]
    split
    · rw [nodesOf_singleton]
      refine List.forall_mem_cons.mpr ⟨fun clean m below => ?_, fun n member => (honest n member).2⟩
      have free : (Tree.make p (.start text) cs).cost = 0 := Nat.eq_zero_of_not_pos (of_decide_eq_false clean)
      exact (honest m below).1 (Tree.free_of_make free kept)
    · rw [map_unnamed]
      exact fun n member => (honest n member).2
  · have nowhere : ∀ q ∈ ([] : List Place), q.isHonest := by simp
    have honest := Tree.Honest.ofTrees (fun t _ => t.honest) nowhere spans
    rw [Tree.skip, ofTree]
    split
    · rw [nodesOf_singleton]
      refine List.forall_mem_cons.mpr ⟨fun clean => ?_, fun n member => (honest n member).2⟩
      have priced := Tree.cost_skip_pos entire false (.start text) cs
      exact absurd priced (of_decide_eq_false clean)
    · rw [map_unnamed]
      exact fun n member => (honest n member).2

end CodeAudit.Syntax
