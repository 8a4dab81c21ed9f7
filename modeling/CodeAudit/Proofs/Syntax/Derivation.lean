import CodeAudit.Proofs.Syntax.Token
import CodeAudit.Syntax.Automaton
import CodeAudit.Syntax.Tree

/-! Syntax trees as derivations. A tree spans a part of the text: its tokens were read there one behind the other, and
each of its nodes was made by a production of the grammar that its children fit. -/
namespace CodeAudit.Syntax

/-- The productions of the grammar. -/
def Grammar.IsProduction (p : Production) : Prop :=
  ∃ r ∈ Grammar.reductions, p ∈ r

/-- Children that fit a production are as many as its places. -/
theorem Production.length_of_fits {p : Production} {kinds : List Kind} (filled : p.fits kinds) :
    p.places.length = kinds.length := by
  unfold Production.fits at filled
  generalize p.places = places at filled ⊢
  induction places generalizing kinds with
  | nil => cases kinds <;> simp_all [fits.go]
  | cons place places ih =>
    cases kinds with
    | nil => simp [fits.go] at filled
    | cons k kinds =>
      simp only [fits.go, Bool.and_eq_true] at filled
      simp [ih filled.2]

/-- What fits a production fills one of its places. -/
theorem Production.exists_place_of_fits {p : Production} {kinds : List Kind} {k : Kind} (filled : p.fits kinds)
    (member : k ∈ kinds) : ∃ q ∈ p.places, q.kinds.any k.standsFor := by
  unfold Production.fits at filled
  generalize p.places = places at filled ⊢
  induction places generalizing kinds with
  | nil => cases kinds <;> simp_all [fits.go]
  | cons place places ih =>
    cases kinds with
    | nil => contradiction
    | cons first kinds =>
      obtain ⟨here, filled⟩ := Bool.and_eq_true_iff.mp filled
      rcases List.mem_cons.mp member with rfl | later
      · exact ⟨place, List.mem_cons_self .., here⟩
      · obtain ⟨q, listed, stands⟩ := ih later filled
        exact ⟨q, List.mem_cons_of_mem _ listed, stands⟩

/-- No production makes a node of a kind that is left to repair, or asks for one. -/
theorem Grammar.sound_kinds {p : Production} (known : IsProduction p) :
    (p.head ≠ .error ∧ p.head ≠ .skipped) ∧ ∀ kinds, p.fits kinds → ∀ k ∈ kinds, k ≠ .error ∧ k ≠ .skipped := by
  have checked : ∀ r ∈ reductions, ∀ p ∈ r, (p.head ≠ .error ∧ p.head ≠ .skipped) ∧ ∀ q ∈ p.places,
      q.kinds.any Kind.error.standsFor = false ∧ q.kinds.any Kind.skipped.standsFor = false := by decide +kernel
  obtain ⟨r, listed, member⟩ := known
  obtain ⟨head, places⟩ := checked r listed p member
  refine ⟨head, fun kinds filled k member => ?_⟩
  obtain ⟨q, place, stands⟩ := Production.exists_place_of_fits filled member
  obtain ⟨whole, kept⟩ := places q place
  refine ⟨fun same => ?_, fun same => ?_⟩
  · exact absurd (whole.symm.trans (same ▸ stands)) Bool.false_ne_true
  · exact absurd (kept.symm.trans (same ▸ stands)) Bool.false_ne_true

/-- A token that repair may put in: in some state it can be shifted, so that a reduction may follow. -/
structure Automaton.CanMiss (k : Kind) : Prop where
  token : k ∈ Kind.tokens
  reduces : ∃ state target, behind? state k = some target ∧ ∃ k' r, Action.reduce r ∈ actions target k'

namespace Tree

mutual

/-- A tree is a derivation of the text between two places. A node does not begin with what may stand anywhere; what
was skipped takes the place of such a thing only as a whole. -/
def Spans : Tree → Cursor → Cursor → Prop
  | .leaf t, c, c' => t.ReadAt c ∧ t.stop = c'
  | .missing k p, c, c' => Automaton.CanMiss k ∧ p = c ∧ c' = c
  | .node p cs d, c, c' =>
    Grammar.IsProduction p ∧ p.fits (filling cs) ∧ (∀ t ∈ cs.head?, t.isExtra = false) ∧
      .node p cs d = make p c cs ∧ SpanAll cs c c'
  | .wreck whole extra cs d, c, c' =>
    (extra = true → whole = true) ∧ .wreck whole extra cs d = skip whole extra c cs ∧ SpanAll cs c c'

/-- Trees are derivations of the text between two places, side by side. -/
def SpanAll : List Tree → Cursor → Cursor → Prop
  | [], c, c' => c' = c
  | t :: ts, c, c' => ∃ m, t.Spans c m ∧ SpanAll ts m c'

end

variable {c c' m : Cursor} {t : Tree} {cs ts : List Tree} {p : Production}

theorem spanAll_nil (c : Cursor) : SpanAll [] c c :=
  rfl

theorem spanAll_cons : SpanAll (t :: ts) c c' ↔ ∃ m, t.Spans c m ∧ SpanAll ts m c' :=
  Iff.rfl

theorem spanAll_append : SpanAll (cs ++ ts) c c' ↔ ∃ m, SpanAll cs c m ∧ SpanAll ts m c' := by
  induction cs generalizing c with
  | nil => simp [SpanAll]
  | cons t cs ih =>
    simp only [List.cons_append, spanAll_cons, ih]
    constructor
    · rintro ⟨a, first, b, rest, last⟩
      exact ⟨b, ⟨a, first, rest⟩, last⟩
    · rintro ⟨b, ⟨a, first, rest⟩, last⟩
      exact ⟨a, first, b, rest, last⟩

theorem spanAll_singleton : SpanAll [t] c c' ↔ t.Spans c c' := by
  constructor
  · rintro ⟨m, spans, rfl⟩
    exact spans
  · intro spans
    exact ⟨c', spans, rfl⟩

theorem map_snd_placed (places : List Place) (cs : List Tree) : (placed places cs).map (·.2) = cs := by
  induction cs generalizing places with
  | nil => cases places <;> rfl
  | cons t cs ih =>
    unfold placed
    split
    · simp [ih]
    · cases places <;> simp [ih]

/-- Where the trees of a list begin and end, side by side at a place. -/
structure Extent (c : Cursor) (trees : List Tree) (d : Digest) : Prop where
  lead : d.lead = ((trees.head?.map (·.digest.lead)).getD c.toPosition)
  start : d.start = ((trees.head?.map (·.digest.start)).getD c.toPosition)
  stop : d.stop = ((trees.getLast?.map (·.digest.stop)).getD c)

theorem extent_sum (c : Cursor) {trees : List Tree} {placed : List (Option Place × Tree)}
    (same : placed.map (·.2) = trees) : Extent c trees (sum c placed) := by
  unfold sum
  rw [same]
  cases trees with
  | nil => exact ⟨rfl, rfl, rfl⟩
  | cons t trees =>
    obtain ⟨last, found⟩ := Option.isSome_iff_exists.mp (List.getLast?_isSome.mpr (List.cons_ne_nil t trees))
    constructor <;> simp [found]

theorem extent_make (p : Production) (c : Cursor) (cs : List Tree) : Extent c cs (make p c cs).digest :=
  have extent := extent_sum c (map_snd_placed p.places cs)
  ⟨extent.lead, extent.start, extent.stop⟩

theorem extent_skip (whole extra : Bool) (c : Cursor) (cs : List Tree) : Extent c cs (skip whole extra c cs).digest :=
  have same : (cs.map fun t => ((none : Option Place), t)).map (·.2) = cs := by simp [Function.comp_def]
  have extent := extent_sum c same
  ⟨extent.lead, extent.start, extent.stop⟩

/-- A digest tells where a tree lies. -/
structure Lies (d : Digest) (c c' : Cursor) : Prop where
  lead : d.lead = c.toPosition
  start : ∃ s, c.Reaches s ∧ s.Reaches c' ∧ d.start = s.toPosition
  stop : d.stop = c'

theorem Lies.reaches {d : Digest} (lies : Lies d c c') : c.Reaches c' := by
  obtain ⟨s, begins, ends, -⟩ := lies.start
  exact begins.trans ends

mutual

theorem Spans.lies : ∀ {t : Tree} {c c' : Cursor}, t.Spans c c' → Lies t.digest c c'
  | .leaf t, c, c' => by
    rintro ⟨read, rfl⟩
    obtain ⟨-, lead, ⟨s, begins, ends, start, -⟩, -⟩ := read.lies
    exact ⟨lead, ⟨s, begins, ends, start⟩, rfl⟩
  | .missing k p, c, c' => by
    rintro ⟨-, rfl, rfl⟩
    exact ⟨rfl, ⟨_, .refl _, .refl _, rfl⟩, rfl⟩
  | .node p cs d, c, c' => by
    rintro ⟨-, -, -, made, spans⟩
    have extent := extent_make p c cs
    rw [← made] at extent
    exact spans.lies extent
  | .wreck whole extra cs d, c, c' => by
    rintro ⟨-, made, spans⟩
    have extent := extent_skip whole extra c cs
    rw [← made] at extent
    exact spans.lies extent

theorem SpanAll.lies : ∀ {cs : List Tree} {c c' : Cursor} {d : Digest}, SpanAll cs c c' → Extent c cs d → Lies d c c'
  | [], c, c', d => by
    rintro rfl ⟨lead, start, stop⟩
    exact ⟨lead, ⟨_, .refl _, .refl _, start⟩, stop⟩
  | t :: ts, c, c', d => by
    rintro ⟨m, first, rest⟩ ⟨lead, start, stop⟩
    obtain ⟨lead', ⟨s, begins, ends, start'⟩, stop'⟩ := Spans.lies first
    obtain ⟨d', extent⟩ : ∃ d', Extent m ts d' :=
      ⟨{ lead := _, start := _, stop := _ }, ⟨rfl, rfl, rfl⟩⟩
    have others : Lies d' m c' := SpanAll.lies rest extent
    refine ⟨lead.trans lead', ⟨s, begins, ends.trans others.reaches, start.trans start'⟩, ?_⟩
    rw [stop, ← others.stop, extent.stop]
    cases ts with
    | nil => simp [stop']
    | cons u ts => simp [List.getLast?_cons]

end

/-- A tree ends up where the trees before it leave off. -/
theorem SpanAll.reaches (spans : SpanAll cs c c') : c.Reaches c' := by
  obtain ⟨d, extent⟩ : ∃ d, Extent c cs d := ⟨{ lead := _, start := _, stop := _ }, ⟨rfl, rfl, rfl⟩⟩
  exact (spans.lies extent).reaches

theorem Spans.reaches (spans : t.Spans c c') : c.Reaches c' :=
  spans.lies.reaches

theorem SpanAll.of_mem (spans : SpanAll cs c c') (member : t ∈ cs) : ∃ b b', c.Reaches b ∧ t.Spans b b' := by
  induction cs generalizing c with
  | nil => exact absurd member List.not_mem_nil
  | cons u us ih =>
    obtain ⟨m, first, rest⟩ := spanAll_cons.mp spans
    rcases List.mem_cons.mp member with rfl | later
    · exact ⟨c, m, .refl c, first⟩
    · obtain ⟨b, b', begins, spans⟩ := ih rest later
      exact ⟨b, b', first.reaches.trans begins, spans⟩

/-- The tree is no text that is no token. -/
def IsPart (t : Tree) : Prop :=
  ∀ leaf, t = .leaf leaf → leaf.kind ≠ .error

theorem isPart_of_isExtra (spans : t.Spans c c') (extra : t.isExtra) : t.IsPart := by
  rintro leaf rfl
  exact spans.1.lies.extra extra

theorem kind_ne_skipped_of_isExtra (spans : t.Spans c c') (extra : t.isExtra) : t.kind ≠ .skipped := by
  cases t with
  | leaf t =>
    intro same
    have token := spans.1.lies.kind
    have same : t.kind = .skipped := same
    rw [same] at token
    contradiction
  | missing => contradiction
  | node => contradiction
  | wreck whole =>
    obtain rfl : whole = true := spans.1 extra
    simp [kind]

/-- A child of a node may stand anywhere, or it is of a kind that a production asks for. -/
theorem Spans.extra_or_asked {d : Digest} (spans : (node p cs d).Spans c c') (member : t ∈ cs) :
    t.isExtra = true ∨ (t.kind ≠ .error ∧ t.kind ≠ .skipped) := by
  obtain ⟨known, fits, -, -, -⟩ := spans
  cases extra : t.isExtra with
  | true => exact .inl rfl
  | false =>
    have filling : t.kind ∈ filling cs := List.mem_map_of_mem (List.mem_filter.mpr ⟨member, by rw [extra]; rfl⟩)
    exact .inr ((Grammar.sound_kinds known).2 _ fits _ filling)

/-- Nothing that was skipped is a child of a node by itself. -/
theorem Spans.kind_ne_skipped {d : Digest} (spans : (node p cs d).Spans c c') (member : t ∈ cs) : t.kind ≠ .skipped := by
  rcases spans.extra_or_asked member with extra | ⟨-, asked⟩
  · obtain ⟨b, b', -, there⟩ := spans.2.2.2.2.of_mem member
    exact kind_ne_skipped_of_isExtra there extra
  · exact asked

/-- Nor is text that is no token. -/
theorem Spans.isPart_of_mem {d : Digest} (spans : (node p cs d).Spans c c') (member : t ∈ cs) : t.IsPart := by
  rcases spans.extra_or_asked member with extra | ⟨asked, -⟩
  · obtain ⟨b, b', -, there⟩ := spans.2.2.2.2.of_mem member
    exact isPart_of_isExtra there extra
  · rintro leaf rfl
    exact asked

/-- What is made of children by a production that they fit is a derivation again. -/
theorem make_spans (known : Grammar.IsProduction p) (fits : p.fits (filling cs))
    (head : ∀ t ∈ cs.head?, t.isExtra = false) (spans : SpanAll cs c c') : (make p c cs).Spans c c' :=
  ⟨known, fits, head, rfl, spans⟩

theorem skip_spans {whole extra : Bool} (placed : extra = true → whole = true) (spans : SpanAll cs c c') :
    (skip whole extra c cs).Spans c c' :=
  ⟨placed, rfl, spans⟩

theorem reduce?_eq_some {r : Reduction} (known : r ∈ Grammar.reductions) (made : reduce? r c cs = some t) :
    ∃ p ∈ r, Grammar.IsProduction p ∧ p.fits (filling cs) ∧ t = make p c cs := by
  obtain ⟨p, chosen, rfl⟩ := Option.map_eq_some_iff.mp made
  have member := List.mem_of_find?_eq_some chosen
  exact ⟨p, member, ⟨r, known, member⟩, by simpa using List.find?_some chosen, rfl⟩

theorem reduce?_spans {r : Reduction} (known : r ∈ Grammar.reductions) (head : ∀ t ∈ cs.head?, t.isExtra = false)
    (spans : SpanAll cs c c') (made : reduce? r c cs = some t) : t.Spans c c' := by
  obtain ⟨p, -, known, fits, rfl⟩ := reduce?_eq_some known made
  exact make_spans known fits head spans

theorem splitExtras_eq (trees : List Tree) :
    splitExtras trees = ((trees.reverse.dropWhile isExtra).reverse, (trees.reverse.takeWhile isExtra).reverse) := by
  have whole : (trees.reverse.dropWhile isExtra).reverse ++ (trees.reverse.takeWhile isExtra).reverse = trees := by
    rw [← List.reverse_append, List.takeWhile_append_dropWhile, List.reverse_reverse]
  have kept : trees.length - (trees.reverse.takeWhile isExtra).reverse.length =
      (trees.reverse.dropWhile isExtra).reverse.length := by
    have sum := congrArg List.length whole
    rw [List.length_append] at sum
    omega
  have front : trees.take (trees.reverse.dropWhile isExtra).reverse.length =
      (trees.reverse.dropWhile isExtra).reverse := by
    conv => lhs; arg 2; rw [← whole]
    exact List.take_left
  simp only [splitExtras, kept, front]

theorem splitExtras_append (trees : List Tree) : (splitExtras trees).1 ++ (splitExtras trees).2 = trees := by
  rw [splitExtras_eq, ← List.reverse_append, List.takeWhile_append_dropWhile, List.reverse_reverse]

theorem isExtra_of_mem_splitExtras {trees : List Tree} (member : t ∈ (splitExtras trees).2) : t.isExtra := by
  rw [splitExtras_eq, List.mem_reverse] at member
  exact List.all_eq_true.mp List.all_takeWhile t member

/-- The extras behind the last other tree fill no places. -/
theorem filling_splitExtras (trees : List Tree) : filling (splitExtras trees).1 = filling trees := by
  have extras : filling (splitExtras trees).2 = [] := by
    unfold filling
    rw [List.map_eq_nil_iff, List.filter_eq_nil_iff]
    intro t member
    simp [isExtra_of_mem_splitExtras member]
  have whole := congrArg filling (splitExtras_append trees)
  have parts : filling ((splitExtras trees).1 ++ (splitExtras trees).2) =
      filling (splitExtras trees).1 ++ filling (splitExtras trees).2 := by
    simp [filling]
  rw [parts, extras, List.append_nil] at whole
  exact whole

theorem splitExtras_head {trees : List Tree} (head : ∀ t ∈ trees.head?, t.isExtra = false) :
    ∀ t ∈ (splitExtras trees).1.head?, t.isExtra = false := by
  intro t first
  refine head t ?_
  rw [← splitExtras_append trees, List.head?_append, first]
  rfl

end Tree

end CodeAudit.Syntax
