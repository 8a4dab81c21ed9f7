import CodeAudit.Proofs.Syntax.Parse
import CodeAudit.Proofs.Syntax.Shape

/-! Where the nodes that a derivation shows lie in the text: side by side, and the children of a node within it. -/
namespace CodeAudit.Syntax

namespace Tree

mutual

/-- What holds of a tree as soon as it holds of its children holds of every tree. -/
theorem induct {P : Tree → Prop} (leaf : ∀ t, P (.leaf t)) (missing : ∀ k c, P (.missing k c))
    (node : ∀ p cs d, (∀ t ∈ cs, P t) → P (.node p cs d))
    (wreck : ∀ whole extra cs d, (∀ t ∈ cs, P t) → P (.wreck whole extra cs d)) : ∀ t : Tree, P t
  | .leaf t => leaf t
  | .missing k c => missing k c
  | .node p cs d => node p cs d (inductOf leaf missing node wreck cs)
  | .wreck whole extra cs d => wreck whole extra cs d (inductOf leaf missing node wreck cs)

theorem inductOf {P : Tree → Prop} (leaf : ∀ t, P (.leaf t)) (missing : ∀ k c, P (.missing k c))
    (node : ∀ p cs d, (∀ t ∈ cs, P t) → P (.node p cs d))
    (wreck : ∀ whole extra cs d, (∀ t ∈ cs, P t) → P (.wreck whole extra cs d)) : ∀ cs : List Tree, ∀ t ∈ cs, P t
  | [] => by simp
  | t :: rest => List.forall_mem_cons.mpr
      ⟨induct leaf missing node wreck t, inductOf leaf missing node wreck rest⟩

end

end Tree

namespace Node

mutual

/-- A node reaches from one place to another, and its children lie side by side between them. -/
def Lies : Node → Cursor → Cursor → Prop
  | .mk l cs, s, e => l.start = s.toPosition ∧ l.stop = e.toPosition ∧ LieAll cs s e

/-- Nodes lie side by side between two places, with gaps between them. -/
def LieAll : List Node → Cursor → Cursor → Prop
  | [], c, c' => c.Reaches c'
  | n :: ns, c, c' => ∃ s e, c.Reaches s ∧ n.Lies s e ∧ LieAll ns e c'

end

variable {b c c' m s e : Cursor} {n : Node} {ns others : List Node} {f : Option Field}

mutual

theorem Lies.reaches : ∀ {n : Node} {s e : Cursor}, n.Lies s e → s.Reaches e
  | .mk _ _, _, _, ⟨_, _, inner⟩ => inner.reaches

theorem LieAll.reaches : ∀ {ns : List Node} {c c' : Cursor}, LieAll ns c c' → c.Reaches c'
  | [], _, _, reaches => reaches
  | _ :: _, _, _, ⟨_, _, begins, first, rest⟩ => begins.trans (first.reaches.trans rest.reaches)

end

theorem LieAll.from (lie : LieAll ns c c') (reaches : b.Reaches c) : LieAll ns b c' := by
  cases ns with
  | nil => exact reaches.trans lie
  | cons n ns =>
    obtain ⟨s, e, begins, first, rest⟩ := lie
    exact ⟨s, e, reaches.trans begins, first, rest⟩

theorem LieAll.append (front : LieAll ns c m) (back : LieAll others m c') : LieAll (ns ++ others) c c' := by
  induction ns generalizing c with
  | nil => exact back.from front
  | cons n ns ih =>
    obtain ⟨s, e, begins, first, rest⟩ := front
    exact ⟨s, e, begins, first, ih rest⟩

/-- Each of the nodes lies somewhere between the two places. -/
theorem LieAll.of_mem (lie : LieAll ns c c') (member : n ∈ ns) :
    ∃ s e, c.Reaches s ∧ n.Lies s e ∧ e.Reaches c' := by
  induction ns generalizing c with
  | nil => exact absurd member List.not_mem_nil
  | cons first ns ih =>
    obtain ⟨s, e, begins, here, rest⟩ := lie
    rcases List.mem_cons.mp member with rfl | later
    · exact ⟨s, e, begins, here, rest.reaches⟩
    · obtain ⟨s', e', begins', there, ends⟩ := ih rest later
      exact ⟨s', e', begins.trans (here.reaches.trans begins'), there, ends⟩

theorem named_eq (f : Option Field) (l : Label) (cs : List Node) :
    ∃ f', named f (mk l cs) = mk { l with field := f' } cs := by
  unfold named
  split
  · exact ⟨l.field, rfl⟩
  · next f _ _ same =>
    obtain ⟨rfl, rfl⟩ := Node.mk.inj same
    split
    · exact ⟨l.field, rfl⟩
    · exact ⟨some f, rfl⟩

theorem Lies.named (lies : n.Lies s e) : (named f n).Lies s e := by
  obtain ⟨l, cs⟩ := n
  obtain ⟨f', same⟩ := named_eq f l cs
  rw [same]
  exact lies

theorem LieAll.named (lie : LieAll ns c c') : LieAll (ns.map (Node.named f)) c c' := by
  induction ns generalizing c with
  | nil => exact lie
  | cons n ns ih =>
    obtain ⟨s, e, begins, first, rest⟩ := lie
    exact ⟨s, e, begins, first.named, ih rest⟩

theorem lieAll_singleton (lies : n.Lies s e) : LieAll [n] s e :=
  ⟨s, e, .refl s, lies, .refl e⟩

end Node

namespace Tree

mutual

/-- What a derivation shows lies behind the blank in front of it. -/
theorem Spans.lieAll : ∀ {t : Tree} {c c' : Cursor} (place : Option Place), t.Spans c c' →
    ∃ s, c.Reaches s ∧ t.digest.start = s.toPosition ∧ Node.LieAll (Node.ofTree place t) s c'
  | .leaf t, c, c', place => by
    rintro ⟨read, rfl⟩
    obtain ⟨-, -, ⟨s, begins, ends, start, -⟩, -⟩ := read.lies
    refine ⟨s, begins, start, ?_⟩
    unfold Node.ofTree
    dsimp only
    split
    · exact Node.lieAll_singleton ⟨start, rfl, ends⟩
    · exact ends
  | .missing k p, c, c', place => by
    rintro ⟨-, rfl, rfl⟩
    refine ⟨_, .refl _, rfl, ?_⟩
    unfold Node.ofTree
    split
    · exact Node.lieAll_singleton ⟨rfl, rfl, .refl _⟩
    · exact .refl _
  | .node p cs d, c, c', place => by
    intro spans
    have lies := spans.lies
    obtain ⟨-, -, -, made, inner⟩ := spans
    obtain ⟨s, begins, start, shown⟩ := inner.lieAll p.places
    have extent := extent_make p c cs
    rw [← made] at extent
    have first : d.start = s.toPosition := extent.start.trans start
    have last : d.stop = c' := lies.stop
    refine ⟨s, begins, first, ?_⟩
    unfold Node.ofTree
    dsimp only
    split
    · exact Node.lieAll_singleton ⟨first, by rw [last], shown⟩
    · exact shown.named
  | .wreck whole extra cs d, c, c', place => by
    intro spans
    have lies := spans.lies
    obtain ⟨-, made, inner⟩ := spans
    obtain ⟨s, begins, start, shown⟩ := inner.lieAll []
    have extent := extent_skip whole extra c cs
    rw [← made] at extent
    have first : d.start = s.toPosition := extent.start.trans start
    have last : d.stop = c' := lies.stop
    refine ⟨s, begins, first, ?_⟩
    unfold Node.ofTree
    dsimp only
    split
    · exact Node.lieAll_singleton ⟨first, by rw [last], shown⟩
    · exact shown.named

theorem SpanAll.lieAll : ∀ {cs : List Tree} {c c' : Cursor} (places : List Place), SpanAll cs c c' →
    ∃ s, c.Reaches s ∧ (cs.head?.map (·.digest.start)).getD c.toPosition = s.toPosition ∧
      Node.LieAll (Node.ofTrees places cs) s c'
  | [], c, c', places => by
    rintro rfl
    exact ⟨_, .refl _, rfl, .refl _⟩
  | t :: ts, c, c', places => by
    rintro ⟨m, first, rest⟩
    unfold Node.ofTrees
    split
    · obtain ⟨s, begins, start, shown⟩ := Spans.lieAll none first
      obtain ⟨s', begins', -, others⟩ := SpanAll.lieAll places rest
      exact ⟨s, begins, start, shown.append (others.from begins')⟩
    · obtain ⟨s, begins, start, shown⟩ := Spans.lieAll places.head? first
      obtain ⟨s', begins', -, others⟩ := SpanAll.lieAll places.tail rest
      exact ⟨s, begins, start, shown.append (others.from begins')⟩

end

end Tree

end CodeAudit.Syntax
