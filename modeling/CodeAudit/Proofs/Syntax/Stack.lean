import CodeAudit.Proofs.Data.Sequence
import CodeAudit.Proofs.Syntax.Derivation
import CodeAudit.Syntax.Stack

/-! The shared stacks hold derivations: the tree on the way from a node to one below it spans the text between their
places. Nodes never move, so what was popped from any of the stacks lies side by side in the text. -/
namespace CodeAudit.Syntax

/-- A way between two places: the tree on it spans the text between them. Text that is no token is not on the way by
itself. -/
def Crosses : Option Tree → Cursor → Cursor → Prop
  | none, b, c => b = c
  | some t, b, c => t.Spans b c ∧ t.IsPart

/-- A wreck that ends the text. -/
def Tree.Ends (t : Tree) : Prop :=
  ∃ c, t = Tree.skip true false c []

theorem Tree.Ends.kind {t : Tree} (ends : t.Ends) : t.kind = .error := by
  obtain ⟨c, rfl⟩ := ends
  rfl

theorem Tree.Ends.isExtra {t : Tree} (ends : t.Ends) : t.isExtra = false := by
  obtain ⟨c, rfl⟩ := ends
  rfl

/-- How the states below and above a way go together. What was skipped leaves the parser lost, and no way leads out of
there but the one that ends the text. -/
def Follows (x : Option Tree) (below above : Nat) : Prop :=
  above = Automaton.lost ∨ ∃ t, x = some t ∧ t.kind ≠ .skipped ∧ (below ≠ Automaton.lost ∨ t.Ends)

namespace Graph

variable {g g' : Graph} {text : List Char} {n m s : Nat} {b c c' : Cursor} {l : Link}

/-- The state of a node. -/
def state (g : Graph) (n : Nat) : Nat :=
  ((g.get? n).map (·.state)).getD Automaton.lost

theorem state_eq {node : StackNode} (found : g.get? n = some node) : g.state n = node.state := by
  rw [state, found]
  rfl

/-- There is a node with the given place. -/
def At (g : Graph) (n : Nat) (c : Cursor) : Prop :=
  ∃ node, g.get? n = some node ∧ node.place = c

theorem At.unique (first : g.At n b) (second : g.At n c) : b = c := by
  obtain ⟨node, found, rfl⟩ := first
  obtain ⟨node', found', rfl⟩ := second
  rw [found] at found'
  rw [Option.some.inj found']

/-- A link leads up to a place in a state. -/
def Leads (g : Graph) (l : Link) (c : Cursor) (s : Nat) : Prop :=
  ∃ b, g.At l.below b ∧ Crosses l.tree b c ∧ Follows l.tree (g.state l.below) s

/-- Stacks that hold derivations of a text. -/
structure Sound (text : List Char) (g : Graph) : Prop where
  filled : Sequence.Filled g
  within : ∀ n c, g.At n c → (Cursor.start text).Reaches c
  links : ∀ n node, g.get? n = some node → ∀ l ∈ node.links, g.Leads l node.place node.state

/-- Nodes stay where they are and keep their states. -/
def Extends (g g' : Graph) : Prop :=
  ∀ n node, g.get? n = some node →
    ∃ node', g'.get? n = some node' ∧ node'.place = node.place ∧ node'.state = node.state

theorem Extends.refl (g : Graph) : g.Extends g :=
  fun _ node found => ⟨node, found, rfl, rfl⟩

theorem Extends.trans {g'' : Graph} (first : g.Extends g') (second : g'.Extends g'') : g.Extends g'' := by
  intro n node found
  obtain ⟨node', found', place, state⟩ := first n node found
  obtain ⟨node'', found'', place', state'⟩ := second n node' found'
  exact ⟨node'', found'', place'.trans place, state'.trans state⟩

theorem Extends.at (onward : g.Extends g') (there : g.At n c) : g'.At n c := by
  obtain ⟨node, found, rfl⟩ := there
  obtain ⟨node', found', place, -⟩ := onward n node found
  exact ⟨node', found', place⟩

theorem Extends.state (onward : g.Extends g') (there : g.At n c) : g'.state n = g.state n := by
  obtain ⟨node, found, rfl⟩ := there
  obtain ⟨node', found', -, state⟩ := onward n node found
  rw [state_eq found', state_eq found, state]

theorem Leads.mono (onward : g.Extends g') (leads : g.Leads l c s) : g'.Leads l c s := by
  obtain ⟨b, below, crosses, follows⟩ := leads
  exact ⟨b, onward.at below, crosses, by rwa [onward.state below]⟩

/-- A node that is put on top of another one lies behind the tree between them. -/
theorem push_sound (sound : g.Sound text) (below : g.At n b) {tree : Option Tree} (crosses : Crosses tree b c)
    (follows : Follows tree (g.state n) s) :
    let g' : Graph := g.push (g.above n tree s)
    Sound text g' ∧ g.Extends g' ∧ g'.At g.size c ∧ g'.state g.size = s := by
  intro g'
  obtain ⟨node, found, rfl⟩ := below
  have looked (j : Nat) : g'.get? j = if j = g.size then some (g.above n tree s) else g.get? j :=
    Sequence.get?_push sound.filled j
  have onward : g.Extends g' := by
    intro j old known
    have other : j ≠ g.size := Nat.ne_of_lt (sound.filled.lt_size known)
    exact ⟨old, by rw [looked, if_neg other, known], rfl, rfl⟩
  have links : (g.above n tree s).links = [⟨n, tree⟩] := by
    unfold above
    rw [found]
    cases tree <;> rfl
  have state : (g.above n tree s).state = s := by
    unfold above
    rw [found]
    cases tree <;> rfl
  have place : (g.above n tree s).place = c := by
    unfold above
    rw [found]
    cases tree with
    | none => exact crosses
    | some t => exact crosses.1.lies.stop
  have top : g'.get? g.size = some (g.above n tree s) := by rw [looked, if_pos rfl]
  refine ⟨⟨sound.filled.push, ?_, ?_⟩, onward, ⟨_, top, place⟩, by rw [state_eq top, state]⟩
  · rintro j _ ⟨there, known, rfl⟩
    rw [looked] at known
    split at known
    · obtain rfl := Option.some.inj known
      have base := sound.within n node.place ⟨node, found, rfl⟩
      rw [place]
      cases tree with
      | none => exact (crosses : node.place = c) ▸ base
      | some t => exact base.trans crosses.1.reaches
    · exact sound.within j _ ⟨there, known, rfl⟩
  · intro j there known l member
    rw [looked] at known
    split at known
    · obtain rfl := Option.some.inj known
      rw [links] at member
      obtain rfl := List.mem_singleton.mp member
      have base : g.At n node.place := ⟨node, found, rfl⟩
      rw [place, state]
      exact ⟨node.place, onward.at base, crosses, by rwa [onward.state base]⟩
    · exact (sound.links j there known l member).mono onward

/-- A node may get other links, if they lead up to it as well. -/
theorem set_sound (sound : g.Sound text) {node node' : StackNode} (found : g.get? n = some node)
    (place : node'.place = node.place) (state : node'.state = node.state)
    (links : ∀ l ∈ node'.links, g.Leads l node.place node.state) :
    Sound text (g.set n node') ∧ g.Extends (g.set n node') := by
  have looked (j : Nat) : (g.set n node').get? j = if j = n then some node' else g.get? j :=
    Sequence.get?_set sound.filled found j
  have onward : g.Extends (g.set n node') := by
    intro j old known
    by_cases same : j = n
    · subst same
      rw [found] at known
      obtain rfl := Option.some.inj known
      exact ⟨node', by rw [looked, if_pos rfl], place, state⟩
    · exact ⟨old, by rw [looked, if_neg same, known], rfl, rfl⟩
  refine ⟨⟨sound.filled.set found, ?_, ?_⟩, onward⟩
  · rintro j _ ⟨there, known, rfl⟩
    rw [looked] at known
    split at known
    · obtain rfl := Option.some.inj known
      rw [place]
      exact sound.within n _ ⟨node, found, rfl⟩
    · exact sound.within j _ ⟨there, known, rfl⟩
  · intro j there known l member
    rw [looked] at known
    split at known
    · obtain rfl := Option.some.inj known
      rw [place, state]
      exact (links l member).mono onward
    · exact (sound.links j there known l member).mono onward

/-- Nodes that stand for the same situation lie in the same place. -/
theorem place_eq_of_alike (sound : g.Sound text) {a b : StackNode} (first : g.get? n = some a)
    (second : g.get? m = some b) (same : alike a b) : a.place = b.place := by
  simp only [alike, Bool.and_eq_true, decide_eq_true_eq] at same
  exact Cursor.eq_of_offset_eq (sound.within n _ ⟨a, first, rfl⟩) (sound.within m _ ⟨b, second, rfl⟩) same.1.2

theorem state_eq_of_alike {a b : StackNode} (same : alike a b) : a.state = b.state := by
  simp only [alike, Bool.and_eq_true, decide_eq_true_eq] at same
  exact same.1.1

theorem alike_of_meeting {link : Link} {i old : Nat} {links : List Link} (met : meeting g link i links = .alike old) :
    ∃ a b, g.get? old = some a ∧ g.get? link.below = some b ∧ alike a b := by
  induction links generalizing i with
  | nil => contradiction
  | cons first rest ih =>
    unfold meeting at met
    split at met
    · split at met
      · contradiction
      · split at met
        · next a b found found' =>
          split at met
          · next same =>
            obtain rfl : first.below = old := by simpa using met
            exact ⟨a, b, found, found', same⟩
          · exact ih met
        · exact ih met
    · exact ih met

theorem addLink_sound (fuel : Nat) (sound : g.Sound text) (there : g.At n c) {link : Link}
    (leads : g.Leads link c (g.state n)) :
    Sound text (addLink fuel g n link) ∧ g.Extends (addLink fuel g n link) := by
  induction fuel generalizing g n c link with
  | zero => exact ⟨sound, .refl g⟩
  | succ fuel ih =>
    have same : Sound text g ∧ g.Extends g := ⟨sound, .refl g⟩
    obtain ⟨node, found, rfl⟩ := there
    rw [state_eq found] at leads
    unfold addLink
    split
    · exact same
    split
    · next node' below found' foundBelow =>
      obtain rfl : node = node' := Option.some.inj (found.symm.trans found')
      dsimp only
      split
      · split
        · refine set_sound sound found rfl rfl fun l member => ?_
          rcases List.mem_or_eq_of_mem_set member with old | rfl
          · exact sound.links n node found l old
          · exact leads
        · exact same
      · next old met =>
        obtain ⟨a, b, foundOld, foundBelow', alike⟩ := alike_of_meeting met
        obtain rfl : below = b := Option.some.inj (foundBelow.symm.trans foundBelow')
        have place := place_eq_of_alike sound foundOld foundBelow alike
        have state := state_eq_of_alike alike
        have merged : Sound text (below.links.foldl (fun g l => addLink fuel g old l) g) ∧
            g.Extends (below.links.foldl (fun g l => addLink fuel g old l) g) := by
          refine List.foldlRecOn (motive := fun g' => Sound text g' ∧ g.Extends g') _ _ same ?_
          rintro g' ⟨sound', onward⟩ l member
          have up := (sound.links _ below foundBelow l member).mono onward
          have old : g.At old a.place := ⟨a, foundOld, rfl⟩
          rw [← place, ← state, ← state_eq foundOld, ← onward.state old] at up
          obtain ⟨sound'', onward'⟩ := ih sound' (onward.at old) up
          exact ⟨sound'', onward.trans onward'⟩
        obtain ⟨sound', onward⟩ := merged
        split
        · next node'' found'' =>
          split
          · have place : ({ node'' with weight := below.weight + treeWeight link.tree } : StackNode).place =
                node''.place := rfl
            obtain ⟨sound'', onward'⟩ := set_sound sound' found'' place rfl (sound'.links n node'' found'')
            exact ⟨sound'', onward.trans onward'⟩
          · exact ⟨sound', onward⟩
        · exact ⟨sound', onward⟩
      · split
        · exact same
        · refine set_sound sound found rfl rfl fun l member => ?_
          rcases List.mem_append.mp member with old | new
          · exact sound.links n node found l old
          · obtain rfl := List.mem_singleton.mp new
            exact leads
    · exact same

section Walks

variable {σ : Type} {visit : σ → Path → StackNode → σ × Bool} {I : σ → Prop} {P : Path → Prop}

/-- A walk keeps what holds of its state as long as it holds of its paths what each step downwards keeps. -/
theorem stepAll_invariant
    (visits : ∀ s p node, I s → P p → g.get? p.node = some node → I (visit s p node).1)
    (steps : ∀ s p node, P p → g.get? p.node = some node → (visit s p node).2 = false →
      ∀ l ∈ node.links, P (step p l))
    {todo kept new : List Path} {s : σ} (state : I s) (paths : ∀ p ∈ todo ++ kept ++ new, P p) :
    I (stepAll g visit todo kept new s).1 ∧ ∀ p ∈ (stepAll g visit todo kept new s).2, P p := by
  induction todo generalizing kept new s with
  | nil =>
    refine ⟨state, fun p member => paths p ?_⟩
    simpa [stepAll] using member
  | cons q todo ih =>
    have others : ∀ p ∈ todo ++ kept ++ new, P p := fun p member => paths p (by simp_all)
    have mine : P q := paths q (by simp)
    unfold stepAll
    cases found : g.get? q.node with
    | none => exact ih state others
    | some node =>
      have visited := visits s q node state mine found
      dsimp only
      split
      · next l links done listed =>
        have below := steps s q node mine found done
        rw [listed] at below
        refine ih visited fun p member => ?_
        simp only [List.mem_append, List.mem_cons, List.mem_map] at member
        rcases member with (member | rfl | member) | member | ⟨k, taken, rfl⟩
        · exact others p (by simp [member])
        · exact below l (by simp)
        · exact others p (by simp [member])
        · exact others p (by simp [member])
        · exact below k (by simp [List.mem_of_mem_take taken])
      · exact ih visited others

theorem walk_invariant
    (visits : ∀ s p node, I s → P p → g.get? p.node = some node → I (visit s p node).1)
    (steps : ∀ s p node, P p → g.get? p.node = some node → (visit s p node).2 = false →
      ∀ l ∈ node.links, P (step p l))
    (fuel : Nat) {paths : List Path} {s : σ} (state : I s) (all : ∀ p ∈ paths, P p) :
    I (walk g visit fuel paths s) := by
  induction fuel generalizing paths s with
  | zero => exact state
  | succ fuel ih =>
    cases paths with
    | nil => exact state
    | cons p paths =>
      have start : ∀ q ∈ (p :: paths) ++ [] ++ [], P q := by simpa using all
      obtain ⟨state', paths'⟩ := stepAll_invariant visits steps state start
      exact ih state' paths'

end Walks

/-- Side by side, the trees on a path reach from its node up to a place. -/
def Rises (g : Graph) (c : Cursor) (p : Path) : Prop :=
  ∃ b, g.At p.node b ∧ Tree.SpanAll p.trees b c

theorem step_rises (sound : g.Sound text) {p : Path} {node : StackNode} (rises : g.Rises c p)
    (found : g.get? p.node = some node) (member : l ∈ node.links) : g.Rises c (step p l) := by
  obtain ⟨b, there, spans⟩ := rises
  obtain rfl : node.place = b := At.unique ⟨node, found, rfl⟩ there
  obtain ⟨a, below, crosses, -⟩ := sound.links p.node node found l member
  unfold step
  cases tree : l.tree with
  | none =>
    rw [tree] at crosses
    obtain rfl : a = node.place := crosses
    exact ⟨_, below, spans⟩
  | some t =>
    rw [tree] at crosses
    exact ⟨a, below, Tree.spanAll_cons.mpr ⟨_, crosses.1, spans⟩⟩

/-- On the way down the parser was never lost, so that nothing skipped lies there, or the text has been ended on it. -/
def Kept (g : Graph) (node : Nat) (trees : List Tree) : Prop :=
  (∃ t ∈ trees, t.Ends) ∨ (g.state node ≠ Automaton.lost ∧ ∀ t ∈ trees, t.kind ≠ .skipped ∧ t.IsPart)

theorem Kept.mono {trees : List Tree} (onward : g.Extends g') (there : g.At n c) (kept : g.Kept n trees) :
    g'.Kept n trees := by
  rwa [Kept, onward.state there]

/-- Where nothing ends the text that fills a place of a production, the parser had not lost its way. -/
theorem Kept.going {trees : List Tree} (kept : g.Kept n trees) {p : Production} (known : Grammar.IsProduction p)
    (fits : p.fits (Tree.filling trees)) : g.state n ≠ Automaton.lost := by
  rcases kept with ⟨t, listed, ends⟩ | ⟨going, -⟩
  · have member : t.kind ∈ Tree.filling trees :=
      List.mem_map_of_mem (List.mem_filter.mpr ⟨listed, by rw [ends.isExtra]; rfl⟩)
    exact absurd ends.kind ((Grammar.sound_kinds known).2 _ fits _ member).1
  · exact going

theorem step_kept (sound : g.Sound text) {p : Path} {node : StackNode} (kept : g.Kept p.node p.trees)
    (found : g.get? p.node = some node) (member : l ∈ node.links) : g.Kept (step p l).node (step p l).trees := by
  obtain ⟨a, below, crosses, follows⟩ := sound.links p.node node found l member
  have node : (step p l).node = l.below := by unfold step; split <;> rfl
  have trees : (step p l).trees = l.tree.toList ++ p.trees := by unfold step; split <;> simp_all
  rw [node, trees]
  rcases kept with ⟨t, listed, ends⟩ | ⟨going, unskipped⟩
  · exact .inl ⟨t, List.mem_append_right _ listed, ends⟩
  rw [state_eq found] at going
  obtain ⟨t, tree, kind, onward⟩ := follows.resolve_left going
  rw [tree] at crosses ⊢
  rcases onward with going | ends
  · exact .inr ⟨going, List.forall_mem_cons.mpr ⟨⟨kind, crosses.2⟩, unskipped⟩⟩
  · exact .inl ⟨t, List.mem_cons_self .., ends⟩

/-- What was popped: some lists of trees for each bared node, all of them with a property. -/
def Popped.All (Q : Nat → List Tree → Prop) (p : Popped) : Prop :=
  ∀ e ∈ p, e.2 ≠ [] ∧ ∀ trees ∈ e.2, Q e.1 trees

theorem Popped.all_add {Q : Nat → List Tree → Prop} {p : Popped} {node : Nat} {trees : List Tree} (old : p.All Q)
    (new : Q node trees) : (p.add node trees).All Q := by
  induction p with
  | nil =>
    intro e member
    obtain rfl := List.mem_singleton.mp member
    simpa using new
  | cons first rest ih =>
    obtain ⟨i, lists⟩ := first
    obtain ⟨here, others⟩ := List.forall_mem_cons.mp old
    unfold Popped.add
    split
    · next same =>
      subst same
      refine List.forall_mem_cons.mpr ⟨⟨by simp, fun ts member => ?_⟩, others⟩
      rcases List.mem_append.mp member with known | added
      · exact here.2 ts known
      · obtain rfl := List.mem_singleton.mp added
        exact new
    · exact List.forall_mem_cons.mpr ⟨here, ih others⟩

/-- Trees that were popped lie side by side between the bared node and a place. -/
def Bared (g : Graph) (c : Cursor) (node : Nat) (trees : List Tree) : Prop :=
  ∃ b, g.At node b ∧ Tree.SpanAll trees b c

/-- Popping gives trees that lie side by side. If they fill as many places as were asked for, the first of them fills
one. -/
theorem pop_all (sound : g.Sound text) (there : g.At n c) (count : Nat) :
    (g.pop n count).All fun node trees => g.Bared c node trees ∧
      ((Tree.filling trees).length = count → ∀ t ∈ trees.head?, t.isExtra = false) ∧
      (g.state n ≠ Automaton.lost → g.Kept node trees) := by
  -- No path has more trees that fill places than it has counted, and the first one has just been counted.
  refine walk_invariant (I := Popped.All _)
    (P := fun p : Path => (g.Rises c p ∧ (g.state n ≠ Automaton.lost → g.Kept p.node p.trees)) ∧
      (Tree.filling p.trees).length ≤ p.count ∧
      (p.count = count → (Tree.filling p.trees).length = count → ∀ t ∈ p.trees.head?, t.isExtra = false))
    ?_ ?_ (g.size + 1) (fun e member => absurd member List.not_mem_nil) ?_
  · rintro s p node state ⟨⟨rises, kept⟩, -, head⟩ -
    split
    · next counted => exact Popped.all_add state ⟨rises, head counted, kept⟩
    · exact state
  · rintro s p node ⟨⟨rises, kept⟩, fewer, -⟩ found going l member
    have under : p.count ≠ count := by
      rintro rfl
      simp at going
    refine ⟨⟨step_rises sound rises found member, fun going => step_kept sound (kept going) found member⟩, ?_⟩
    unfold step
    cases l.tree with
    | none => exact ⟨by simpa using Nat.le_succ_of_le fewer, by simp; omega⟩
    | some t =>
      cases extra : t.isExtra with
      | true => simp [Tree.filling, extra] at fewer ⊢; omega
      | false => simp [Tree.filling, extra] at fewer ⊢; omega
  · intro p member
    obtain rfl := List.mem_singleton.mp member
    exact ⟨⟨⟨c, there, rfl⟩, fun going => .inr ⟨going, by simp⟩⟩, by simp [Tree.filling], by simp⟩

/-- All of a stack lies side by side. -/
theorem popAll_all (sound : g.Sound text) (there : g.At n c) (going : g.state n ≠ Automaton.lost) :
    (g.popAll n).All fun node trees => g.Bared c node trees ∧ g.Kept node trees := by
  refine walk_invariant (I := Popped.All fun node trees => g.Bared c node trees ∧ g.Kept node trees)
    (P := fun p => g.Rises c p ∧ g.Kept p.node p.trees) ?_ ?_ (g.size + 1)
    (fun e member => absurd member List.not_mem_nil) ?_
  · intro s p node state kept _
    split
    · exact Popped.all_add state kept
    · exact state
  · rintro s p node ⟨rises, kept⟩ found _ l member
    exact ⟨step_rises sound rises found member, step_kept sound kept found member⟩
  · intro p member
    obtain rfl := List.mem_singleton.mp member
    exact ⟨⟨c, there, rfl⟩, .inr ⟨going, by simp⟩⟩

end Graph

end CodeAudit.Syntax
