import CodeAudit.Proofs.Syntax.Clean

/-! What the grammar says about the statements and operations that branch, where no error lies in them: they hold parts
of their own, a boolean operation has both its operands, and a `try` statement has a block and clauses behind it, of
which at most one is the last. -/
namespace CodeAudit.Syntax

open Node

/-- The kinds of syntax that have a shape of their own in the flow of control. -/
def Kind.branches (k : Kind) : Bool :=
  k = .ifStatement || k = .forStatement || k = .whileStatement || k = .booleanOperator || k = .tryStatement

/-- Kinds that have a part in the flow of control without being definitions, and stand in places of their own. -/
def Kind.isPart (k : Kind) : Bool :=
  Flow.counts k && !k.defines && !k.isExtra && k != .error

/-- The clauses of a `try` statement. -/
def Kind.isClause (k : Kind) : Bool :=
  Flow.isHandler k || k = .finallyClause

/-- Hidden kinds that are made up of handlers. -/
def Kind.handlers : List Kind :=
  [.exceptClauses, .exceptGroupClauses]

/-- Hidden kinds that are made up of parts: of handlers or of one expression. -/
def Kind.parts : List Kind :=
  .expression :: .primaryExpression :: handlers

namespace Place

/-- What fills the place is shown as nodes of a sort, or it is of a hidden kind. -/
def gives (sort : Kind → Bool) (hidden : List Kind) (q : Place) : Bool :=
  match q.shown with
  | some k => sort k
  | none => q.fillers.all fun k => sort k || hidden.contains k

/-- The place shows no cleanup, except for one that fills it. -/
def isClear (q : Place) : Bool :=
  match q.shown with
  | some k => k.isVisible && k != .finallyClause
  | none => q.fillers.all fun k => k.isVisible || k.isToken || Kind.handlers.contains k

end Place

/-- Nodes of a sort, and the hidden kinds that are made up of them. -/
structure Family (sort : Kind → Bool) (hidden : List Kind) : Prop where
  visible : ∀ k, sort k → k.isVisible ∧ k.isExtra = false ∧ k ≠ .error
  unseen : ∀ k ∈ hidden, k.isVisible = false ∧ k.isToken = false
  made : ∀ p, Grammar.IsProduction p → p.head ∈ hidden → p.places ≠ [] ∧ ∀ q ∈ p.places, q.gives sort hidden

/-- What the productions of the grammar have in common as far as branches are concerned. -/
structure Production.Branching (p : Production) : Prop where
  plain : ∀ q ∈ p.places, q.shown.all (!·.branches)
  part : p.head.branches → (∃ q ∈ p.places, q.shown = none ∧ q.gives Kind.isPart Kind.parts) ∧
    ∀ q ∈ p.places, q.shown.all Kind.isPart
  left : p.head = .booleanOperator → ∃ q ∈ p.places, q.name = some .left ∧ q.gives Kind.isPart Kind.parts
  right : p.head = .booleanOperator → ∃ q ∈ p.places, q.name = some .right ∧ q.gives Kind.isPart Kind.parts
  body : p.head = .tryStatement → ∃ q ∈ p.places, q.gives (· = .block) []
  clauses : p.head = .tryStatement → ∃ q ∈ p.places, q.gives Kind.isClause Kind.handlers
  once : p.head = .tryStatement → p.places.countP (·.fillers.contains .finallyClause) ≤ 1 ∧ ∀ q ∈ p.places, q.isClear

instance (p : Production) : Decidable p.Branching :=
  decidable_of_iff
    ((∀ q ∈ p.places, q.shown.all (!·.branches)) ∧
      (p.head.branches → (∃ q ∈ p.places, q.shown = none ∧ q.gives Kind.isPart Kind.parts) ∧
        ∀ q ∈ p.places, q.shown.all Kind.isPart) ∧
      (p.head = .booleanOperator → ∃ q ∈ p.places, q.name = some .left ∧ q.gives Kind.isPart Kind.parts) ∧
      (p.head = .booleanOperator → ∃ q ∈ p.places, q.name = some .right ∧ q.gives Kind.isPart Kind.parts) ∧
      (p.head = .tryStatement → ∃ q ∈ p.places, q.gives (· = .block) []) ∧
      (p.head = .tryStatement → ∃ q ∈ p.places, q.gives Kind.isClause Kind.handlers) ∧
      (p.head = .tryStatement → p.places.countP (·.fillers.contains .finallyClause) ≤ 1 ∧ ∀ q ∈ p.places, q.isClear))
    ⟨fun ⟨plain, part, left, right, body, clauses, once⟩ => ⟨plain, part, left, right, body, clauses, once⟩,
      fun ⟨plain, part, left, right, body, clauses, once⟩ => ⟨plain, part, left, right, body, clauses, once⟩⟩

namespace Grammar

theorem branching {p : Production} (known : IsProduction p) : p.Branching := by
  have checked : ∀ r ∈ reductions, ∀ p ∈ r, p.Branching := by decide +kernel
  obtain ⟨r, listed, member⟩ := known
  exact checked r listed p member

theorem family_of_parts : Family Kind.isPart Kind.parts where
  visible k part := by
    simp only [Kind.isPart, Flow.counts, Kind.isNamed, Bool.and_eq_true, Bool.not_eq_true', bne_iff_ne, ne_eq] at part
    exact ⟨by simp [Kind.isVisible, part], part.1.2, part.2⟩
  unseen := by decide
  made p known := by
    have checked : ∀ r ∈ reductions, ∀ p ∈ r, p.head ∈ Kind.parts →
        p.places ≠ [] ∧ ∀ q ∈ p.places, q.gives Kind.isPart Kind.parts := by decide +kernel
    obtain ⟨r, listed, member⟩ := known
    exact checked r listed p member

theorem family_of_blocks : Family (· = .block) [] where
  visible k block := by
    rw [of_decide_eq_true block]
    decide
  unseen := by simp
  made p known head := absurd head List.not_mem_nil

theorem family_of_handlers {sort : Kind → Bool} (handlers : ∀ k, Flow.isHandler k → sort k)
    (clauses : ∀ k, sort k → k.isClause) : Family sort Kind.handlers where
  visible k part := by
    have clause := clauses k part
    simp only [Kind.isClause, Flow.isHandler, Bool.or_eq_true, decide_eq_true_eq] at clause
    obtain (rfl | rfl) | rfl := clause <;> decide
  unseen := by decide
  made p known head := by
    have checked : ∀ r ∈ reductions, ∀ p ∈ r, p.head ∈ Kind.handlers → p.places ≠ [] ∧
        ∀ q ∈ p.places, q.shown = none ∧ q.fillers.all fun k => Flow.isHandler k || Kind.handlers.contains k := by
      decide +kernel
    obtain ⟨r, listed, member⟩ := known
    obtain ⟨some, all⟩ := checked r listed p member head
    refine ⟨some, fun q place => ?_⟩
    obtain ⟨plain, fillers⟩ := all q place
    rw [Place.gives, plain, List.all_eq_true]
    intro k filled
    have filler := List.all_eq_true.mp fillers k filled
    rw [Bool.or_eq_true] at filler ⊢
    exact filler.imp_left (handlers k)

end Grammar

variable {text : List Char} {sort : Kind → Bool} {hidden : List Kind} {place : Option Place} {places : List Place}
  {p : Production} {q : Place} {t : Tree} {cs : List Tree} {d : Digest} {c c' : Cursor} {n : Node}

theorem kind_named (f : Option Field) (n : Node) : (named f n).kind = n.kind := by
  obtain ⟨l, cs⟩ := n
  obtain ⟨f', same⟩ := named_eq f l cs
  rw [same]
  rfl

theorem field_named {f : Field} (placed : n.kind.isExtra = false) (whole : n.kind ≠ .error) :
    (named (some f) n).label.field = some f := by
  obtain ⟨l, cs⟩ := n
  have placed : l.kind.isExtra = false := placed
  have whole : l.kind ≠ .error := whole
  simp [named, placed, whole]

/-- A tree is asked for nodes of a sort in a place. -/
def Asks (sort : Kind → Bool) (hidden : List Kind) (place : Option Place) (t : Tree) : Prop :=
  sort ((place.bind Place.shown).getD t.kind) ∨ (place.bind Place.shown = none ∧ t.kind ∈ hidden)

theorem asks_of_gives (gives : q.gives sort hidden) (filled : t.kind ∈ q.fillers) : Asks sort hidden (some q) t := by
  rw [Place.gives] at gives
  rw [Asks, Option.bind_some]
  cases shown : q.shown with
  | some k => exact .inl (by simpa [shown] using gives)
  | none =>
    simp only [shown, List.all_eq_true, Bool.or_eq_true, List.contains_iff_mem] at gives
    exact (gives t.kind filled).imp id fun unseen => ⟨rfl, unseen⟩

/-- What children show is shown in one of the places, unless it may stand anywhere. -/
theorem mem_ofTrees (fits : Production.fits.go places (Tree.filling cs)) (member : n ∈ ofTrees places cs) :
    ∃ t ∈ cs, (t.isExtra ∧ n ∈ ofTree none t) ∨ ∃ q ∈ places, t.kind ∈ q.fillers ∧ n ∈ ofTree (some q) t := by
  induction cs generalizing places with
  | nil => simp [ofTrees] at member
  | cons u us ih =>
    rcases fits_cons fits with ⟨extra, fits⟩ | ⟨q, rest, inner, rfl, filled, fits⟩
    · rw [ofTrees, if_pos extra] at member
      rcases List.mem_append.mp member with mine | later
      · exact ⟨u, List.mem_cons_self .., .inl ⟨extra, mine⟩⟩
      · obtain ⟨t, there, shown⟩ := ih fits later
        exact ⟨t, List.mem_cons_of_mem _ there, shown⟩
    · rw [ofTrees, inner] at member
      rcases List.mem_append.mp member with mine | later
      · exact ⟨u, List.mem_cons_self .., .inr ⟨q, List.mem_cons_self .., filled, mine⟩⟩
      · obtain ⟨t, there, shown⟩ := ih fits later
        refine ⟨t, List.mem_cons_of_mem _ there, shown.imp_right ?_⟩
        rintro ⟨q', place, filled, shown⟩
        exact ⟨q', List.mem_cons_of_mem _ place, filled, shown⟩

/-- What costs nothing is shown as one node if its kind there is visible. -/
theorem ofTree_of_isVisible (spans : t.Spans c c') (free : t.cost = 0)
    (visible : ((place.bind Place.shown).getD t.kind).isVisible) :
    ∃ l ns, ofTree place t = [.mk l ns] ∧ l.kind = (place.bind Place.shown).getD t.kind ∧
      l.field = place.bind Place.name := by
  cases t with
  | leaf t => exact ⟨_, _, by rw [ofTree]; exact if_pos visible, rfl, rfl⟩
  | missing k p => contradiction
  | node p cs d => exact ⟨_, _, by rw [ofTree]; exact if_pos visible, rfl, rfl⟩
  | wreck whole extra cs d =>
    have free : d.cost = 0 := free
    exact absurd spans.not_wreck (by omega)

/-- A token is shown as a token, if at all. -/
theorem isToken_of_mem_ofTree (spans : t.Spans c c') (free : t.cost = 0) (token : t.kind.isToken)
    (plain : place.bind Place.shown = none) : ∀ n ∈ ofTree place t, n.kind.isToken := by
  cases t with
  | leaf t =>
    intro n member
    rw [ofTree, plain] at member
    split at member
    · obtain rfl := List.mem_singleton.mp member
      exact token
    · exact absurd member List.not_mem_nil
  | missing k p => contradiction
  | node p cs d =>
    have head := (Grammar.regular spans.1).head
    exact absurd (head.symm.trans token) (by decide)
  | wreck whole extra cs d =>
    have free : d.cost = 0 := free
    exact absurd spans.not_wreck (by omega)

theorem isToken_of_isExtra (spans : t.Spans c c') (extra : t.isExtra) : t.kind.isToken := by
  cases t with
  | leaf t => exact spans.1.lies.kind
  | missing => contradiction
  | node => contradiction
  | wreck whole =>
    obtain rfl : whole = true := spans.1 extra
    rfl

/-- What a tree shows in a place: a node of a sort at least, under the name that the place gives to it, and besides
nodes of the sort only tokens. -/
def Yields (sort : Kind → Bool) (place : Option Place) (t : Tree) : Prop :=
  (∃ n ∈ ofTree place t, sort n.kind ∧ ∀ f, place.bind Place.name = some f → n.label.field = some f) ∧
    ∀ n ∈ ofTree place t, sort n.kind ∨ n.kind.isToken

theorem Family.yields_of_sort (family : Family sort hidden) (spans : t.Spans c c') (free : t.cost = 0)
    (here : sort ((place.bind Place.shown).getD t.kind)) : Yields sort place t := by
  obtain ⟨l, ns, one, kind, field⟩ := ofTree_of_isVisible spans free (family.visible _ here).1
  have sorted : sort l.kind := by rw [kind]; exact here
  rw [Yields, one]
  exact ⟨⟨_, List.mem_singleton_self _, sorted, fun f named => field.trans named⟩, by simp [sorted]⟩

/-- What costs nothing shows nodes of a sort wherever these are asked for. -/
theorem Family.yields (family : Family sort hidden) (t : Tree) : ∀ (place : Option Place) (c c' : Cursor),
    t.Spans c c' → t.cost = 0 → Asks sort hidden place t → Yields sort place t := by
  induction t using Tree.induct with
  | leaf t =>
    intro place c c' spans free asks
    refine family.yields_of_sort spans free (asks.resolve_right ?_)
    rintro ⟨-, unseen⟩
    exact absurd ((family.unseen _ unseen).2.symm.trans spans.1.lies.kind) (by decide)
  | missing k p => intro place c c' spans free; contradiction
  | node p cs d ih =>
    intro place c c' spans free asks
    rcases asks with here | ⟨plain, unseen⟩
    · exact family.yields_of_sort spans free here
    obtain ⟨known, fits, -, -, inner⟩ := id spans
    obtain ⟨filled, gives⟩ := family.made p known unseen
    have invisible : ¬ p.head.isVisible := by simp [show p.head.isVisible = false from (family.unseen _ unseen).1]
    have below (t : Tree) (member : t ∈ cs) (q : Place) (listed : q ∈ p.places) (filled : t.kind ∈ q.fillers) :
        Yields sort (some q) t := by
      obtain ⟨b, b', -, spans'⟩ := inner.of_mem member
      exact ih t member (some q) b b' spans' (spans.cost_of_mem free member) (asks_of_gives (gives q listed) filled)
    rw [Yields, ofTree, plain, Option.getD_none, if_neg invisible]
    constructor
    · obtain ⟨q, listed⟩ := List.exists_mem_of_ne_nil _ filled
      obtain ⟨t, member, filled, shown⟩ := exists_child_of_place fits listed
      obtain ⟨n, there, sorted, -⟩ := (below t member q listed filled).1
      obtain ⟨-, placed, whole⟩ := family.visible _ sorted
      refine ⟨_, List.mem_map_of_mem (shown there), by rw [kind_named]; exact sorted, fun f named => ?_⟩
      rw [named]
      exact field_named placed whole
    · intro n member
      obtain ⟨n, shown, rfl⟩ := List.mem_map.mp member
      rw [kind_named]
      obtain ⟨t, member, ⟨extra, there⟩ | ⟨q, listed, filled, there⟩⟩ := mem_ofTrees fits shown
      · obtain ⟨b, b', -, spans'⟩ := inner.of_mem member
        have whole := isToken_of_isExtra spans' extra
        exact .inr (isToken_of_mem_ofTree spans' (spans.cost_of_mem free member) whole rfl n there)
      · exact (below t member q listed filled).2 n there
  | wreck whole extra cs d ih =>
    intro place c c' spans free
    have free : d.cost = 0 := free
    exact absurd spans.not_wreck (by omega)

theorem countP_eq_zero_of_isToken {ns : List Node} (others : ∀ n ∈ ns, Flow.isHandler n.kind ∨ n.kind.isToken) :
    ns.countP (·.kind = .finallyClause) = 0 := by
  rw [List.countP_eq_zero]
  intro n member same
  have same : n.kind = .finallyClause := of_decide_eq_true same
  have others := others n member
  rw [same] at others
  exact absurd others (by decide)

/-- A place shows no more cleanups than fill it. -/
theorem countP_ofTree_le (spans : t.Spans c c') (free : t.cost = 0) (filled : t.kind ∈ q.fillers) (clear : q.isClear) :
    (ofTree (some q) t).countP (·.kind = .finallyClause) ≤ if q.fillers.contains .finallyClause then 1 else 0 := by
  have none_of_tokens (others : ∀ n ∈ ofTree (some q) t, Flow.isHandler n.kind ∨ n.kind.isToken) :
      (ofTree (some q) t).countP (·.kind = .finallyClause) ≤ if q.fillers.contains .finallyClause then 1 else 0 := by
    rw [countP_eq_zero_of_isToken others]
    exact Nat.zero_le _
  have single (visible : (((some q).bind Place.shown).getD t.kind).isVisible)
      (filled : q.shown.getD t.kind = .finallyClause → q.fillers.contains .finallyClause) :
      (ofTree (some q) t).countP (·.kind = .finallyClause) ≤ if q.fillers.contains .finallyClause then 1 else 0 := by
    obtain ⟨l, ns, one, kind, -⟩ := ofTree_of_isVisible spans free visible
    have kind : (Node.mk l ns).kind = q.shown.getD t.kind := kind
    rw [one, List.countP_singleton, kind]
    by_cases cleanup : q.shown.getD t.kind = .finallyClause
    · simp [cleanup, List.contains_iff_mem.mp (filled cleanup)]
    · simp [cleanup]
  rw [Place.isClear] at clear
  cases shown : q.shown with
  | some k =>
    simp only [shown, Bool.and_eq_true, bne_iff_ne, ne_eq] at clear
    exact single (by simp [shown, clear.1]) fun same => absurd (by simpa [shown] using same) clear.2
  | none =>
    simp only [shown, List.all_eq_true, Bool.or_eq_true] at clear
    rcases clear t.kind filled with (visible | token) | handlers
    · refine single (by simpa [shown] using visible) fun same => ?_
      have same : t.kind = .finallyClause := by simpa [shown] using same
      exact List.contains_iff_mem.mpr (same ▸ filled)
    · have plain : (some q).bind Place.shown = none := shown
      exact none_of_tokens fun n member => .inr (isToken_of_mem_ofTree spans free token plain n member)
    · have family := Grammar.family_of_handlers (fun k handler => handler) fun k (handler : Flow.isHandler k) => by
        simp [Kind.isClause, handler]
      have asks : Asks Flow.isHandler Kind.handlers (some q) t := .inr ⟨shown, List.contains_iff_mem.mp handlers⟩
      exact none_of_tokens (family.yields t (some q) c c' spans free asks).2

/-- Places show no more cleanups than they could be filled with. -/
theorem countP_ofTrees_le (fits : Production.fits.go places (Tree.filling cs)) (spans : Tree.SpanAll cs c c')
    (free : ∀ t ∈ cs, t.cost = 0) (clear : ∀ q ∈ places, q.isClear) :
    (ofTrees places cs).countP (·.kind = .finallyClause) ≤ places.countP (·.fillers.contains .finallyClause) := by
  induction cs generalizing places c with
  | nil => simp [ofTrees]
  | cons t ts ih =>
    obtain ⟨m, first, rest⟩ := Tree.spanAll_cons.mp spans
    obtain ⟨here, free⟩ := List.forall_mem_cons.mp free
    rcases fits_cons fits with ⟨extra, fits⟩ | ⟨q, others, inner, rfl, filled, fits⟩
    · have tokens : ∀ n ∈ ofTree none t, n.kind.isToken :=
        isToken_of_mem_ofTree first here (isToken_of_isExtra first extra) rfl
      rw [ofTrees, if_pos extra, List.countP_append, countP_eq_zero_of_isToken fun n member => .inr (tokens n member),
        Nat.zero_add]
      exact ih fits rest free clear
    · obtain ⟨mine, clear⟩ := List.forall_mem_cons.mp clear
      have now := countP_ofTree_le first here filled mine
      have later := ih fits rest free clear
      rw [ofTrees, inner, List.countP_cons]
      simp only [Bool.false_eq_true, if_false, List.head?_cons, List.tail_cons, List.countP_append]
      omega

/-- What the grammar says about a node that branches: something in it has a part in the flow of control, a boolean
operation has both operands, and a `try` statement has a block and clauses, of which at most one is a cleanup. -/
structure Node.Complete (n : Node) : Prop where
  part : n.kind.branches → ∃ m ∈ n.children, m.kind.isPart
  left : n.kind = .booleanOperator → ∃ m ∈ n.children, m.label.field = some .left
  right : n.kind = .booleanOperator → ∃ m ∈ n.children, m.label.field = some .right
  body : n.kind = .tryStatement → ∃ m ∈ n.children, m.kind = .block
  clauses : n.kind = .tryStatement → ∃ m ∈ n.children, m.kind.isClause
  once : n.kind = .tryStatement → n.children.countP (·.kind = .finallyClause) ≤ 1

theorem complete_of_other (other : n.kind.branches = false) : n.Complete := by
  have kind {k : Kind} (branches : k.branches) : n.kind ≠ k := by
    rintro rfl
    exact absurd (branches.symm.trans other) (by decide)
  exact ⟨fun branches => absurd (branches.symm.trans other) (by decide), fun same => absurd same (kind rfl),
    fun same => absurd same (kind rfl), fun same => absurd same (kind rfl), fun same => absurd same (kind rfl),
    fun same => absurd same (kind rfl)⟩

theorem Node.Complete.named {f : Option Field} (complete : n.Complete) : (named f n).Complete := by
  obtain ⟨l, cs⟩ := n
  obtain ⟨f', same⟩ := named_eq f l cs
  rw [same]
  exact ⟨complete.part, complete.left, complete.right, complete.body, complete.clauses, complete.once⟩

/-- What costs nothing shows nodes of a sort in a place for them. -/
theorem Family.exists_of_place (family : Family sort hidden) (spans : (Tree.node p cs d).Spans c c') (free : d.cost = 0)
    (place : q ∈ p.places) (gives : q.gives sort hidden) :
    ∃ n ∈ ofTrees p.places cs, sort n.kind ∧ ∀ f, q.name = some f → n.label.field = some f := by
  obtain ⟨-, fits, -, -, inner⟩ := id spans
  obtain ⟨t, member, filled, shown⟩ := exists_child_of_place fits place
  obtain ⟨b, b', -, below⟩ := inner.of_mem member
  obtain ⟨n, there, rest⟩ :=
    (family.yields t (some q) b b' below (spans.cost_of_mem free member) (asks_of_gives gives filled)).1
  exact ⟨n, shown there, rest⟩

theorem complete_of_spans {l : Label} (spans : (Tree.node p cs d).Spans c c') (free : d.cost = 0)
    (kind : p.head = l.kind) : (Node.mk l (ofTrees p.places cs)).Complete := by
  have branching := Grammar.branching spans.1
  have parts := Grammar.family_of_parts
  constructor <;> rw [kind_mk, children_mk, ← kind] <;> intro here
  · obtain ⟨q, place, -, gives⟩ := (branching.part here).1
    obtain ⟨n, shown, part, -⟩ := parts.exists_of_place spans free place gives
    exact ⟨n, shown, part⟩
  · obtain ⟨q, place, name, gives⟩ := branching.left here
    obtain ⟨n, shown, -, field⟩ := parts.exists_of_place spans free place gives
    exact ⟨n, shown, field .left name⟩
  · obtain ⟨q, place, name, gives⟩ := branching.right here
    obtain ⟨n, shown, -, field⟩ := parts.exists_of_place spans free place gives
    exact ⟨n, shown, field .right name⟩
  · obtain ⟨q, place, gives⟩ := branching.body here
    obtain ⟨n, shown, block, -⟩ := Grammar.family_of_blocks.exists_of_place spans free place gives
    exact ⟨n, shown, of_decide_eq_true block⟩
  · obtain ⟨q, place, gives⟩ := branching.clauses here
    have clauses := Grammar.family_of_handlers (fun k handler => by simp [Kind.isClause, handler]) fun _ => id
    obtain ⟨n, shown, clause, -⟩ := clauses.exists_of_place spans free place gives
    exact ⟨n, shown, clause⟩
  · obtain ⟨few, clear⟩ := branching.once here
    obtain ⟨-, fits, -, -, inner⟩ := id spans
    exact (countP_ofTrees_le fits inner (fun t member => spans.cost_of_mem free member) clear).trans few

/-- Where no error lies in them, the nodes that productions make are as the grammar has them. -/
theorem conferred_complete (text : List Char) : Conferred text Kind.branches fun n => n.Clean → n.Complete where
  token k token := by
    cases branches : k.branches with
    | false => rfl
    | true =>
      simp only [Kind.branches, Bool.or_eq_true, decide_eq_true_eq] at branches
      obtain (((rfl | rfl) | rfl) | rfl) | rfl := branches <;> contradiction
  plain _ known := (Grammar.branching known).plain
  other _ other _ := complete_of_other other
  named _ _ complete clean := (complete (clean_named.mp clean)).named
  made := by
    intro p cs d c c' l within spans kind start error clean
    have free : d.cost = 0 := by
      have clean : l.hasError = false := clean
      simpa [error] using clean
    exact complete_of_spans spans free kind

/-- However a whole tree was put together, something in it has a part in the flow of control if it branches. -/
theorem exists_part_of_make {inner : List Tree} (known : Grammar.IsProduction p) (fits : p.fits (Tree.filling inner))
    (within : inner ⊆ cs) (spans : Tree.SpanAll cs c c') (free : ∀ t ∈ cs, t.cost = 0) (branches : p.head.branches) :
    ∃ n ∈ ofTrees p.places cs, n.kind.isPart := by
  obtain ⟨⟨q, listed, unshown, gives⟩, plain⟩ := (Grammar.branching known).part branches
  obtain ⟨t, member, filled, -⟩ := exists_child_of_place fits listed
  -- What else lies in the tree may have moved the children to other places, or to none.
  obtain ⟨place, places, shown⟩ := exists_shown_of_mem p.places (within member)
  have asks : Asks Kind.isPart Kind.parts place t := by
    cases elsewhere : place.bind Place.shown with
    | none =>
      have here : Asks Kind.isPart Kind.parts (some q) t := asks_of_gives gives filled
      simpa [Asks, elsewhere, unshown] using here
    | some k =>
      obtain ⟨q', rfl, renamed⟩ := Option.bind_eq_some_iff.mp elsewhere
      have part := plain q' (places q' rfl)
      rw [renamed] at part
      exact .inl (by rw [elsewhere]; exact part)
  obtain ⟨b, b', -, below⟩ := spans.of_mem (within member)
  obtain ⟨n, there, part, -⟩ :=
    (Grammar.family_of_parts.yields t place b b' below (free t (within member)) asks).1
  exact ⟨n, shown there, part⟩

/-- What branches in syntax without errors is as the grammar has it, and so is the root as far as it branches. -/
structure Node.Branches (root : Node) : Prop where
  part : root.kind.branches → ∃ n ∈ root.children, n.kind.isPart
  complete : ∀ n ∈ nodesOf root.children, n.Complete

/-- A node free of errors that is shown somewhere in a whole tree. -/
theorem complete_of_mem (plain : ∀ q ∈ places, q.shown.all (!·.branches)) (within : (Cursor.start text).Reaches c)
    (spans : Tree.SpanAll cs c c') (member : n ∈ ofTrees places cs) (clean : n.Clean) : n.Complete :=
  have all := Conferred.Shows.ofTrees (fun t _ => (conferred_complete text).shows t) plain within spans
  all n (mem_nodesOf member) clean

/-- In the syntax of a text without errors, all that branches is as the grammar has it. -/
theorem branches_of_read {root : Node} (given : read text = .ok root) : root.Branches := by
  obtain ⟨t, whole, shown, clean⟩ := whole_of_read given
  have closed := closed_of_whole whole root (mem_nodesOf (List.mem_of_mem_head? shown)) clean
  obtain ⟨-, -, -, -, all⟩ := children_of_read given
  refine ⟨?_, fun n member => all _ _ (conferred_complete text) n member (closed n member).1⟩
  obtain ⟨b, c, cs, begins, spans, ⟨p, inner, known, fits, listed, kept, rfl⟩ | ⟨entire, rfl⟩⟩ := whole
  · rw [Tree.make, ofTree] at shown
    split at shown
    · obtain rfl := Option.some.inj shown
      have free : (Tree.make p (.start text) cs).cost = 0 := Nat.eq_zero_of_not_pos (of_decide_eq_false clean)
      have free (t : Tree) (member : t ∈ cs) : t.cost = 0 := (Tree.free_of_make free kept t member).1
      exact exists_part_of_make known fits listed spans free
    · have member := List.mem_of_mem_head? shown
      rw [map_unnamed] at member
      exact (complete_of_mem (Grammar.branching known).plain begins spans member clean).part
  · rw [Tree.skip, ofTree] at shown
    split at shown
    · obtain rfl := Option.some.inj shown
      have priced := Tree.cost_skip_pos entire false (.start text) cs
      exact absurd priced (of_decide_eq_false clean)
    · have member := List.mem_of_mem_head? shown
      rw [map_unnamed] at member
      exact (complete_of_mem (by simp) begins spans member clean).part

end CodeAudit.Syntax
