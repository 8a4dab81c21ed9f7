import CodeAudit.Proofs.Syntax.Shown
import CodeAudit.Syntax.Module

/-! Properties of all the nodes that a text shows. A property that is about nodes of certain kinds only is known of all
nodes as soon as it is known of those that the productions of the grammar make. -/
namespace CodeAudit.Syntax

open Node

variable {text : List Char} {place : Option Place} {places : List Place} {t : Tree} {cs : List Tree} {c c' : Cursor}
  {about : Kind → Bool} {P : Node → Prop}

theorem isToken_of_mem_tokens {k : Kind} (token : k ∈ Kind.tokens) : k.isToken := by
  simp [Kind.isToken, token]

theorem nodesOf_singleton (l : Label) (cs : List Node) : nodesOf [.mk l cs] = .mk l cs :: nodesOf cs := by
  simp [nodesOf, nodes]

theorem Node.mem_nodesOf {n : Node} {ns : List Node} (member : n ∈ ns) : n ∈ nodesOf ns := by
  rw [nodesOf_eq]
  exact List.mem_flatMap.mpr ⟨n, member, self_mem_nodes n⟩

theorem Node.children_subset {n : Node} {ns : List Node} (member : n ∈ ns) : nodesOf n.children ⊆ nodesOf ns := by
  intro m below
  rw [nodesOf_eq ns]
  refine List.mem_flatMap.mpr ⟨n, member, ?_⟩
  obtain ⟨l, cs⟩ := n
  rw [nodes_mk, ← nodesOf_eq]
  exact List.mem_cons_of_mem _ below

theorem mem_nodesOf_map_named {ns : List Node} {f : Option Field} {n : Node} (member : n ∈ nodesOf (ns.map (named f))) :
    n ∈ nodesOf ns ∨ ∃ m ∈ ns, n = named f m := by
  rw [nodesOf_eq, List.flatMap_map] at member
  obtain ⟨m, listed, member⟩ := List.mem_flatMap.mp member
  obtain ⟨l, cs⟩ := m
  obtain ⟨f', same⟩ := named_eq f l cs
  rw [same, nodes_mk] at member
  rcases List.mem_cons.mp member with top | below
  · exact .inr ⟨.mk l cs, listed, top.trans same.symm⟩
  · rw [← nodesOf_eq] at below
    exact .inl (Node.children_subset listed below)

/-- A property of nodes of certain kinds, which are no kinds of tokens and under which nothing else is shown. It does not
depend on the name of a node, and whatever a production makes of children has it. -/
structure Conferred (text : List Char) (about : Kind → Bool) (P : Node → Prop) : Prop where
  token : ∀ k : Kind, k.isToken → about k = false
  plain : ∀ p, Grammar.IsProduction p → ∀ q ∈ p.places, q.shown.all (!about ·)
  other : ∀ n, about n.kind = false → P n
  named : ∀ n f, P n → P (named f n)
  made : ∀ {p : Production} {cs : List Tree} {d : Digest} {c c' : Cursor} {l : Label}, (Cursor.start text).Reaches c →
    (Tree.node p cs d).Spans c c' → p.head = l.kind → l.start = d.start → l.hasError = decide (0 < d.cost) →
      P (.mk l (ofTrees p.places cs))

namespace Conferred

/-- All that a tree shows has the property. -/
def Shows (text : List Char) (about : Kind → Bool) (P : Node → Prop) (t : Tree) : Prop :=
  ∀ (place : Option Place) (c c' : Cursor), (∀ q ∈ place, q.shown.all (!about ·)) → (Cursor.start text).Reaches c →
    t.Spans c c' → ∀ n ∈ nodesOf (ofTree place t), P n

theorem Shows.ofTrees (all : ∀ t ∈ cs, Shows text about P t) (plain : ∀ q ∈ places, q.shown.all (!about ·))
    (within : (Cursor.start text).Reaches c) (spans : Tree.SpanAll cs c c') :
    ∀ n ∈ nodesOf (ofTrees places cs), P n := by
  induction cs generalizing places c with
  | nil => intro n member; simp [Node.ofTrees, nodesOf] at member
  | cons t ts ih =>
    obtain ⟨m, first, rest⟩ := Tree.spanAll_cons.mp spans
    obtain ⟨here, all⟩ := List.forall_mem_cons.mp all
    have onward := within.trans first.reaches
    intro n member
    rw [Node.ofTrees] at member
    split at member
    · rw [nodesOf_eq, List.flatMap_append, ← nodesOf_eq, ← nodesOf_eq] at member
      rcases List.mem_append.mp member with mine | later
      · exact here none c m (by simp) within first n mine
      · exact ih all plain onward rest n later
    · rw [nodesOf_eq, List.flatMap_append, ← nodesOf_eq, ← nodesOf_eq] at member
      rcases List.mem_append.mp member with mine | later
      · exact here places.head? c m (fun q head => plain q (List.mem_of_mem_head? head)) within first n mine
      · exact ih all (fun q member => plain q (List.mem_of_mem_tail member)) onward rest n later

/-- A kind that the property is about is not shown instead of another one. -/
theorem about_shown (plain : ∀ q ∈ place, q.shown.all (!about ·)) {k : Kind}
    (mine : about ((place.bind Place.shown).getD k)) : k = (place.bind Place.shown).getD k := by
  cases place with
  | none => rfl
  | some q =>
    cases shown : q.shown with
    | none => simp [shown]
    | some k' =>
      have plain := plain q rfl
      simp only [Option.bind_some, shown, Option.getD_some] at mine
      simp [shown, mine] at plain

variable (conferred : Conferred text about P)

include conferred

theorem of_map_named {ns : List Node} {f : Option Field} (all : ∀ n ∈ nodesOf ns, P n) :
    ∀ n ∈ nodesOf (ns.map (Node.named f)), P n := by
  intro n member
  rcases mem_nodesOf_map_named member with old | ⟨m, listed, rfl⟩
  · exact all n old
  · exact conferred.named m f (all m (Node.mem_nodesOf listed))

theorem of_token {l : Label} (plain : ∀ q ∈ place, q.shown.all (!about ·)) {k : Kind} (token : k.isToken)
    (shown : l.kind = (place.bind Place.shown).getD k) : P (.mk l []) := by
  refine conferred.other _ ?_
  rw [← Bool.not_eq_true, kind_mk, shown]
  intro mine
  rw [← about_shown plain mine, conferred.token k token] at mine
  contradiction

/-- What a derivation shows has the property. -/
theorem shows (t : Tree) : Shows text about P t := by
  induction t using Tree.induct with
  | leaf t =>
    intro place c c' plain within spans n member
    rw [ofTree] at member
    split at member
    · rw [nodesOf_singleton] at member
      obtain rfl := List.mem_singleton.mp member
      exact conferred.of_token plain spans.1.lies.kind rfl
    · simp [nodesOf] at member
  | missing k p =>
    intro place c c' plain within spans n member
    rw [ofTree] at member
    split at member
    · rw [nodesOf_singleton] at member
      obtain rfl := List.mem_singleton.mp member
      exact conferred.other _ (conferred.token k (isToken_of_mem_tokens spans.1.token))
    · simp [nodesOf] at member
  | node p cs d ih =>
    intro place c c' plain within spans
    obtain ⟨known, -, -, -, inner⟩ := id spans
    have below : ∀ n ∈ nodesOf (Node.ofTrees p.places cs), P n := Shows.ofTrees ih (conferred.plain p known) within inner
    rw [ofTree]
    split
    · rw [nodesOf_singleton]
      refine List.forall_mem_cons.mpr ⟨?_, below⟩
      cases mine : about ((place.bind Place.shown).getD p.head) with
      | false => exact conferred.other _ mine
      | true => exact conferred.made within spans (about_shown plain mine) rfl rfl
    · exact conferred.of_map_named below
  | wreck whole extra cs d ih =>
    intro place c c' plain within spans
    have below : ∀ n ∈ nodesOf (Node.ofTrees [] cs), P n := Shows.ofTrees ih (by simp) within spans.2.2
    rw [ofTree]
    split
    · rw [nodesOf_singleton]
      exact List.forall_mem_cons.mpr ⟨conferred.other _ (conferred.token .error rfl), below⟩
    · exact conferred.of_map_named below

end Conferred

/-- Without a place nothing gets a name. -/
theorem map_unnamed (ns : List Node) : ns.map (named ((none : Option Place).bind Place.name)) = ns :=
  List.map_id ns

/-- A whole tree shows what its children show, in a node of its own or not. -/
theorem ofTree_of_whole (whole : t.Whole text) : ∃ b c cs places, (Cursor.start text).Reaches b ∧
    Tree.SpanAll cs b c ∧ (places = [] ∨ ∃ p, Grammar.IsProduction p ∧ places = p.places) ∧
      ((∃ l, ofTree none t = [.mk l (ofTrees places cs)]) ∨ ofTree none t = ofTrees places cs) := by
  obtain ⟨b, c, cs, begins, spans, ⟨p, -, known, -, -, -, rfl⟩ | ⟨entire, rfl⟩⟩ := whole
  · refine ⟨b, c, cs, p.places, begins, spans, .inr ⟨p, known, rfl⟩, ?_⟩
    rw [Tree.make, ofTree]
    split
    · exact .inl ⟨_, rfl⟩
    · exact .inr (map_unnamed _)
  · refine ⟨b, c, cs, [], begins, spans, .inl rfl, ?_⟩
    rw [Tree.skip, ofTree]
    split
    · exact .inl ⟨_, rfl⟩
    · exact .inr (map_unnamed _)

/-- What is read from a text is the first node that a whole tree shows, and free of errors. -/
theorem whole_of_read {root : Node} (given : read text = .ok root) :
    ∃ t : Tree, t.Whole text ∧ (ofTree none t).head? = some root ∧ root.label.hasError = false := by
  unfold read at given
  split at given
  · cases given
  · next n found =>
    split at given
    · split at given <;> cases given
    · next clean =>
      obtain rfl := Except.ok.inj given
      obtain ⟨t, parsed, shown⟩ := Option.bind_eq_some_iff.mp found
      exact ⟨t, whole_of_parse? parsed, shown, by simpa using clean⟩

/-- The nodes below a root that is read from a text lie side by side in it, and they have all properties that the
productions confer. -/
theorem children_of_read {root : Node} (given : read text = .ok root) : ∃ c c', (Cursor.start text).Reaches c ∧
    LieAll root.children c c' ∧ ∀ about P, Conferred text about P → ∀ n ∈ nodesOf root.children, P n := by
  obtain ⟨t, whole, shown, -⟩ := whole_of_read given
  obtain ⟨b, c, cs, places, begins, spans, origin, shape⟩ := ofTree_of_whole whole
  obtain ⟨s, later, -, lie⟩ := spans.lieAll places
  have all (about : Kind → Bool) (P : Node → Prop) (conferred : Conferred text about P) :
      ∀ n ∈ nodesOf (ofTrees places cs), P n := by
    refine Conferred.Shows.ofTrees (fun t _ => conferred.shows t) ?_ begins spans
    rcases origin with rfl | ⟨p, known, rfl⟩
    · simp
    · exact conferred.plain p known
  rcases shape with ⟨l, one⟩ | several
  · rw [one] at shown
    obtain rfl := Option.some.inj shown
    exact ⟨s, c, begins.trans later, lie, all⟩
  · rw [several] at shown
    have member := List.mem_of_mem_head? shown
    obtain ⟨s', e', begins', lies, -⟩ := lie.of_mem member
    obtain ⟨l, ns⟩ := root
    exact ⟨s', e', (begins.trans later).trans begins', lies.2.2, fun about P conferred n below =>
      all about P conferred n (children_subset member below)⟩

end CodeAudit.Syntax
