import CodeAudit.Proofs.Syntax.Nodes
import CodeAudit.Syntax.Definition
import Mathlib.Data.List.Forall2

/-! The definitions of functions and classes in a text without errors: what the grammar says about their names, their
bodies and what is decorated, read off the productions that made them. -/
namespace CodeAudit.Syntax

/-- The kinds of definitions. -/
def Kind.defines (k : Kind) : Bool :=
  k = .functionDefinition || k = .classDefinition || k = .decoratedDefinition

/-- The kinds of what may fill a place. -/
def Place.fillers (q : Place) : List Kind :=
  q.kinds.flatMap fun k => k :: k.soleChildren.flatMap fun inner => inner :: inner.soleChildren

theorem Place.mem_fillers {q : Place} {k : Kind} (filled : q.kinds.any k.standsFor) : k ∈ q.fillers := by
  obtain ⟨asked, member, stands⟩ := List.any_eq_true.mp filled
  refine List.mem_flatMap.mpr ⟨asked, member, ?_⟩
  simp only [Kind.standsFor, Bool.or_eq_true, decide_eq_true_eq, List.any_eq_true] at stands
  rcases stands with rfl | ⟨inner, member, stands⟩
  · exact List.mem_cons_self ..
  · refine List.mem_cons_of_mem _ (List.mem_flatMap.mpr ⟨inner, member, ?_⟩)
    rcases stands with rfl | below
    · exact List.mem_cons_self ..
    · exact List.mem_cons_of_mem _ (List.contains_iff_mem.mp below)

namespace Place

/-- What fills the place is shown as one node, except for a missing token perhaps. -/
def isShown (q : Place) : Bool :=
  q.fillers.all fun k => k != .skipped && k != .error && (q.shown.getD k).isVisible &&
    (q.shown.isNone || !k.isToken || !k.isVisible)

/-- Nor does it matter to such a place whether a token is missing. -/
def isSure (q : Place) : Bool :=
  q.shown.isNone || q.fillers.all fun k => !k.isToken

/-- Only tokens fill the place, and none of them is shown. -/
def isSilent (q : Place) : Bool :=
  q.shown.isNone && q.fillers.all fun k => k.isToken && k != .error && k.isHidden

/-- Decorators are shown, without a name. -/
def isPrelude (q : Place) : Bool :=
  q.name.isNone && q.shown.isNone && q.fillers.all fun k => k = .decorators || k = .decorator

/-- No node is shown as a definition that is none. -/
def isPlain (q : Place) : Bool :=
  q.shown.all (!·.defines)

end Place

namespace Production

/-- The places that show a node under a name. -/
def namedPlaces (p : Production) (f : Field) : List Place :=
  p.places.filter fun q => q.name = some f && q.isShown

/-- The one place that shows a node under a name has a property. -/
def sole (p : Production) (f : Field) (P : Place → Bool) : Bool :=
  match p.namedPlaces f with
  | [q] => P q
  | _ => false

theorem namedPlaces_of_sole {p : Production} {f : Field} {P : Place → Bool} (sole : p.sole f P) :
    ∃ q, p.namedPlaces f = [q] ∧ q.isShown ∧ P q := by
  unfold Production.sole at sole
  split at sole
  · next q only =>
    have member : q ∈ p.namedPlaces f := by rw [only]; exact List.mem_singleton_self q
    have shown := (List.mem_filter.mp member).2
    simp only [Bool.and_eq_true] at shown
    exact ⟨q, only, shown.2, sole⟩
  · contradiction

/-- What the productions of the grammar have in common as far as definitions are concerned. -/
structure Regular (p : Production) : Prop where
  head : p.head.isToken = false
  plain : ∀ q ∈ p.places, q.isPlain
  places : p.head.defines → ∀ q ∈ p.places, q.isShown ∨ q.isSilent ∨ q.isPrelude
  named : p.head = .functionDefinition ∨ p.head = .classDefinition →
    p.sole .name fun q => q.fillers = [.identifier] && q.shown = none
  body : p.head = .classDefinition → p.sole .body fun q => q.fillers.all fun k => q.shown.getD k = .block
  definition : p.head = .decoratedDefinition →
    p.sole .definition fun q => q.fillers = [.functionDefinition, .classDefinition] && q.shown = none
  front : p.head = .functionDefinition → p.places.head?.any fun q =>
    q.isShown && q.shown = none && q.fillers.all fun k => k = .defWord || k = .asyncWord
  decorated : p.head = .decoratedDefinition → p.places.head?.any Place.isPrelude
  decorators : p.head = .decorators → p.places.head?.any Place.isPrelude ∧ ∀ q ∈ p.places, q.isPrelude

instance (p : Production) : Decidable p.Regular :=
  decidable_of_iff
    (p.head.isToken = false ∧ (∀ q ∈ p.places, q.isPlain) ∧
      (p.head.defines → ∀ q ∈ p.places, q.isShown ∨ q.isSilent ∨ q.isPrelude) ∧
      (p.head = .functionDefinition ∨ p.head = .classDefinition →
        p.sole .name fun q => q.fillers = [.identifier] && q.shown = none) ∧
      (p.head = .classDefinition → p.sole .body fun q => q.fillers.all fun k => q.shown.getD k = .block) ∧
      (p.head = .decoratedDefinition →
        p.sole .definition fun q => q.fillers = [.functionDefinition, .classDefinition] && q.shown = none) ∧
      (p.head = .functionDefinition → p.places.head?.any fun q =>
        q.isShown && q.shown = none && q.fillers.all fun k => k = .defWord || k = .asyncWord) ∧
      (p.head = .decoratedDefinition → p.places.head?.any Place.isPrelude) ∧
      (p.head = .decorators → p.places.head?.any Place.isPrelude ∧ ∀ q ∈ p.places, q.isPrelude))
    ⟨fun ⟨head, plain, places, named, body, definition, front, decorated, decorators⟩ =>
        ⟨head, plain, places, named, body, definition, front, decorated, decorators⟩,
      fun ⟨head, plain, places, named, body, definition, front, decorated, decorators⟩ =>
        ⟨head, plain, places, named, body, definition, front, decorated, decorators⟩⟩

end Production

theorem Grammar.regular {p : Production} (known : IsProduction p) : p.Regular := by
  have checked : ∀ r ∈ reductions, ∀ p ∈ r, p.Regular := by decide +kernel
  obtain ⟨r, listed, member⟩ := known
  exact checked r listed p member

section Fields

open Node

variable {text : List Char} {place : Option Place} {q : Place} {places : List Place} {t : Tree} {cs ts : List Tree}
  {c c' : Cursor} {f : Field}

/-- What fills a place is shown as one node there, or it is a missing token. -/
theorem ofTree_of_isShown (spans : t.Spans c c') (filled : t.kind ∈ q.fillers) (shown : q.isShown) :
    (ofTree (some q) t = [] ∧ q.isSure = false) ∨
      ∃ n, ofTree (some q) t = [n] ∧ n.label.field = q.name ∧ n.kind = q.shown.getD t.kind ∧
        n.label.start = t.digest.start := by
  have here := List.all_eq_true.mp shown t.kind filled
  simp only [Bool.and_eq_true, bne_iff_ne, ne_eq] at here
  obtain ⟨⟨⟨unskipped, unbroken⟩, visible⟩, hidden⟩ := here
  cases t with
  | leaf t => exact .inr ⟨_, by rw [ofTree]; exact if_pos visible, rfl, rfl, rfl⟩
  | missing k p =>
    have token := isToken_of_mem_tokens spans.1.token
    cases other : q.shown with
    | none =>
      rw [other] at visible
      exact .inr ⟨_, by rw [ofTree]; exact if_pos visible, rfl, rfl, rfl⟩
    | some k' =>
      rw [other] at hidden
      have hidden : k.isVisible = false := by simpa [Tree.kind, token] using hidden
      refine .inl ⟨by rw [ofTree, hidden]; rfl, ?_⟩
      simp only [Place.isSure, other, Option.isNone_some, Bool.false_or, List.all_eq_false]
      exact ⟨k, filled, by simp [token]⟩
  | node p cs d => exact .inr ⟨_, by rw [ofTree]; exact if_pos visible, rfl, rfl, rfl⟩
  | wreck whole extra cs d => cases whole <;> contradiction

theorem ofTree_of_isSilent (spans : t.Spans c c') (filled : t.kind ∈ q.fillers) (silent : q.isSilent) :
    ofTree (some q) t = [] := by
  obtain ⟨plain, silent⟩ := Bool.and_eq_true_iff.mp silent
  have plain : q.shown = none := by simpa using plain
  have here := List.all_eq_true.mp silent t.kind filled
  simp only [Bool.and_eq_true, bne_iff_ne, ne_eq] at here
  obtain ⟨⟨token, unbroken⟩, hidden⟩ := here
  have hidden : t.kind.isVisible = false := by simp [Kind.isVisible, hidden]
  cases t with
  | leaf t =>
    have hidden : t.kind.isVisible = false := hidden
    simp [ofTree, plain, hidden]
  | missing k p =>
    have hidden : k.isVisible = false := hidden
    simp [ofTree, hidden]
  | node p cs d =>
    have head := (Grammar.regular spans.1).head
    exact absurd (head.symm.trans token) (by decide)
  | wreck whole extra cs d => cases whole <;> contradiction

/-- What may stand anywhere is shown without a name. -/
theorem field_of_isExtra (spans : t.Spans c c') (extra : t.isExtra) : ∀ n ∈ ofTree none t, n.label.field = none := by
  cases t with
  | leaf t =>
    intro n member
    rw [ofTree] at member
    split at member
    · obtain rfl := List.mem_singleton.mp member
      rfl
    · exact absurd member List.not_mem_nil
  | missing k p => contradiction
  | node p cs d => contradiction
  | wreck whole extra cs d =>
    obtain rfl : whole = true := spans.1 extra
    intro n member
    rw [ofTree] at member
    obtain rfl := List.mem_singleton.mp member
    rfl

theorem fits_cons (fits : Production.fits.go places (Tree.filling (t :: ts))) :
    (t.isExtra = true ∧ Production.fits.go places (Tree.filling ts)) ∨
      ∃ q rest, t.isExtra = false ∧ places = q :: rest ∧ t.kind ∈ q.fillers ∧
        Production.fits.go rest (Tree.filling ts) := by
  cases extra : t.isExtra with
  | true => exact .inl ⟨rfl, by simpa [Tree.filling, extra] using fits⟩
  | false =>
    have filling : Tree.filling (t :: ts) = t.kind :: Tree.filling ts := by simp [Tree.filling, extra]
    rw [filling] at fits
    cases places with
    | nil => contradiction
    | cons q rest =>
      obtain ⟨filled, fits⟩ := Bool.and_eq_true_iff.mp fits
      exact .inr ⟨q, rest, rfl, rfl, Place.mem_fillers filled, fits⟩

/-- The first child of a node fills its first place. -/
theorem head_of_fits (fits : Production.fits.go places (Tree.filling cs)) (head : ∀ t ∈ cs.head?, t.isExtra = false)
    {P : Place → Bool} (first : places.head?.any P) :
    ∃ q rest t ts, places = q :: rest ∧ cs = t :: ts ∧ P q ∧ t.isExtra = false ∧ t.kind ∈ q.fillers := by
  cases cs with
  | nil =>
    cases places with
    | nil => contradiction
    | cons => contradiction
  | cons t ts =>
    have inner := head t rfl
    rcases fits_cons fits with ⟨extra, -⟩ | ⟨q, rest, -, rfl, filled, -⟩
    · rw [inner] at extra
      contradiction
    · exact ⟨q, rest, t, ts, rfl, rfl, first, inner, filled⟩

/-- Nodes without names, the first of which is a decorator. -/
structure Prelude (start : Position) (ns : List Node) : Prop where
  head : ∃ first rest, ns = first :: rest ∧ first.kind = .decorator ∧ first.label.start = start
  nameless : ∀ n ∈ ns, n.label.field = none

/-- Children have no names if each is shown without one in its place. -/
theorem field_ofTrees (spans : Tree.SpanAll cs c c') (fits : Production.fits.go places (Tree.filling cs))
    (nameless : ∀ q ∈ places, ∀ t ∈ cs, t.kind ∈ q.fillers → ∀ b b', t.Spans b b' →
      ∀ n ∈ ofTree (some q) t, n.label.field = none) : ∀ n ∈ ofTrees places cs, n.label.field = none := by
  induction cs generalizing places c with
  | nil => intro n member; simp [ofTrees] at member
  | cons t ts ih =>
    obtain ⟨m, first, rest⟩ := Tree.spanAll_cons.mp spans
    intro n member
    rcases fits_cons fits with ⟨extra, fits⟩ | ⟨q, others, inner, rfl, filled, fits⟩
    · rw [ofTrees, if_pos extra] at member
      rcases List.mem_append.mp member with mine | later
      · exact field_of_isExtra first extra n mine
      · exact ih rest fits (fun q place t child => nameless q place t (List.mem_cons_of_mem _ child)) n later
    · rw [ofTrees, inner] at member
      rcases List.mem_append.mp member with now | later
      · exact nameless q (List.mem_cons_self ..) t (List.mem_cons_self ..) filled _ _ first n now
      · exact ih rest fits (fun q place t child =>
          nameless q (List.mem_cons_of_mem _ place) t (List.mem_cons_of_mem _ child)) n later

/-- A place that the decorators of a definition fill gives them no name. -/
theorem isPrelude_iff : q.isPrelude ↔
    q.name = none ∧ q.shown = none ∧ ∀ k ∈ q.fillers, k = .decorators ∨ k = .decorator := by
  simp [Place.isPrelude, and_assoc]

theorem prelude_ofTree (t : Tree) : ∀ (place : Option Place) (c c' : Cursor), place.bind Place.name = none →
    place.bind Place.shown = none → t.kind = .decorators ∨ t.kind = .decorator → t.Spans c c' →
      Prelude t.digest.start (ofTree place t) := by
  induction t using Tree.induct with
  | leaf t =>
    intro place c c' nameless plain kind spans
    have token : (Tree.leaf t).kind.isToken := spans.1.lies.kind
    rcases kind with kind | kind <;> rw [kind] at token <;> contradiction
  | missing k p =>
    intro place c c' nameless plain kind spans
    have token : (Tree.missing k p).kind.isToken := isToken_of_mem_tokens spans.1.token
    rcases kind with kind | kind <;> rw [kind] at token <;> contradiction
  | node p cs d ih =>
    intro place c c' nameless plain kind spans
    obtain ⟨known, fits, head, made, inner⟩ := spans
    rw [ofTree, nameless, plain]
    rcases kind with kind | kind
    · have kind : p.head = .decorators := kind
      obtain ⟨first, preludes⟩ := (Grammar.regular known).decorators kind
      have hidden : p.head.isVisible = false := by rw [kind]; rfl
      have unnamed : (ofTrees p.places cs).map (named none) = ofTrees p.places cs := List.map_id _
      simp only [Option.getD_none, hidden, Bool.false_eq_true, if_false, unnamed]
      have each (q : Place) (member : q ∈ p.places) (t : Tree) (child : t ∈ cs) (filled : t.kind ∈ q.fillers)
          (b b' : Cursor) (spans : t.Spans b b') : Prelude t.digest.start (ofTree (some q) t) := by
        obtain ⟨nameless, plain, fillers⟩ := isPrelude_iff.mp (preludes q member)
        exact ih t child (some q) b b' nameless plain (fillers t.kind filled) spans
      refine ⟨?_, field_ofTrees inner fits fun q place t child filled b b' spans =>
        (each q place t child filled b b' spans).nameless⟩
      have extent := Tree.extent_make p c cs
      rw [← made] at extent
      obtain ⟨q, rest, t, ts, places, rfl, -, unmarked, filled⟩ := head_of_fits fits head first
      obtain ⟨m, spans, -⟩ := Tree.spanAll_cons.mp inner
      obtain ⟨n, ns, shown, decorator, start⟩ :=
        (each q (by simp [places]) t (List.mem_cons_self ..) filled c m spans).head
      refine ⟨n, ns ++ ofTrees rest ts, ?_, decorator, start.trans extent.start.symm⟩
      rw [places, ofTrees, unmarked]
      simp [shown]
    · have kind : p.head = .decorator := kind
      simp only [Option.getD_none, kind]
      exact ⟨⟨_, [], rfl, rfl, rfl⟩, by simp [Kind.isVisible, Kind.isHidden]⟩
  | wreck whole extra cs d ih =>
    intro place c c' nameless plain kind spans
    cases whole <;> simp [Tree.kind] at kind

/-- What a place shows in the text behind a cursor. -/
def Fills (c : Cursor) (q : Place) (ns : List Node) : Prop :=
  ∃ t b b', c.Reaches b ∧ t.Spans b b' ∧ t.kind ∈ q.fillers ∧ ns = ofTree (some q) t

theorem Fills.from {ns : List Node} (fills : Fills c q ns) (reaches : c'.Reaches c) : Fills c' q ns := by
  obtain ⟨t, b, b', begins, rest⟩ := fills
  exact ⟨t, b, b', reaches.trans begins, rest⟩

theorem filter_field_eq_nil {ns : List Node} (nameless : ∀ n ∈ ns, n.label.field = none) :
    ns.filter (·.label.field = some f) = [] := by
  rw [List.filter_eq_nil_iff]
  intro n member
  simp [nameless n member]

/-- The children with a name are what the places with that name show. -/
theorem filter_field_ofTrees (flat : ∀ q ∈ places, q.isShown ∨ q.isSilent ∨ q.isPrelude)
    (fits : Production.fits.go places (Tree.filling cs)) (spans : Tree.SpanAll cs c c') :
    ∃ nss, List.Forall₂ (Fills c) (places.filter fun q => q.name = some f && q.isShown) nss ∧
      (ofTrees places cs).filter (·.label.field = some f) = nss.flatten := by
  induction cs generalizing places c with
  | nil =>
    cases places with
    | nil => exact ⟨[], .nil, rfl⟩
    | cons => contradiction
  | cons t ts ih =>
    obtain ⟨m, first, rest⟩ := Tree.spanAll_cons.mp spans
    rcases fits_cons fits with ⟨extra, fits⟩ | ⟨q, others, inner, rfl, filled, fits⟩
    · obtain ⟨nss, fill, same⟩ := ih flat fits rest
      refine ⟨nss, fill.imp fun q ns fills => fills.from first.reaches, ?_⟩
      rw [ofTrees, if_pos extra, List.filter_append, filter_field_eq_nil (field_of_isExtra first extra), same]
      rfl
    · obtain ⟨here, flat⟩ := List.forall_mem_cons.mp flat
      obtain ⟨nss, fill, same⟩ := ih flat fits rest
      have fill := fill.imp fun q ns fills => fills.from first.reaches
      have split : (ofTrees (q :: others) (t :: ts)).filter (·.label.field = some f) =
          (ofTree (some q) t).filter (·.label.field = some f) ++ nss.flatten := by
        rw [ofTrees, inner, ← same]
        simp
      rw [split]
      by_cases mine : q.name = some f ∧ q.isShown
      · refine ⟨ofTree (some q) t :: nss, ?_, ?_⟩
        · rw [List.filter_cons_of_pos (by simp [mine.1, mine.2])]
          exact .cons ⟨t, _, _, .refl _, first, filled, rfl⟩ fill
        · rw [List.flatten_cons]
          congr 1
          rcases ofTree_of_isShown first filled mine.2 with ⟨none, -⟩ | ⟨n, one, named, -⟩
          · rw [none]
            rfl
          · rw [one, List.filter_cons_of_pos (by simp [named, mine.1])]
            rfl
      · refine ⟨nss, ?_, ?_⟩
        · rw [List.filter_cons_of_neg (by simpa using mine)]
          exact fill
        · have none : (ofTree (some q) t).filter (·.label.field = some f) = [] := by
            rcases here with shown | silent | prelude
            · have other : q.name ≠ some f := fun same => mine ⟨same, shown⟩
              rcases ofTree_of_isShown first filled shown with ⟨none, -⟩ | ⟨n, one, named, -⟩
              · rw [none]
                rfl
              · rw [one, List.filter_cons_of_neg (by simp [named, other])]
                rfl
            · rw [ofTree_of_isSilent first filled silent]
              rfl
            · obtain ⟨nameless, plain, fillers⟩ := isPrelude_iff.mp prelude
              have shown := prelude_ofTree t (some q) _ _ nameless plain (fillers t.kind filled) first
              exact filter_field_eq_nil shown.nameless
          rw [none]
          rfl

/-- The children with a name that one place gives are what that place shows. -/
theorem filter_field_of_sole {p : Production} (flat : ∀ q ∈ p.places, q.isShown ∨ q.isSilent ∨ q.isPrelude)
    (fits : p.fits (Tree.filling cs)) (spans : Tree.SpanAll cs c c') (only : p.namedPlaces f = [q]) :
    Fills c q ((ofTrees p.places cs).filter (·.label.field = some f)) := by
  obtain ⟨nss, fill, same⟩ := filter_field_ofTrees (f := f) flat fits spans
  have only : (p.places.filter fun q => q.name = some f && q.isShown) = [q] := only
  rw [only] at fill
  cases fill with
  | cons here rest =>
    cases rest
    rw [same, List.flatten_singleton]
    exact here

end Fields

namespace Node

/-- An identifier in a text. -/
structure IsIdentifier (text : List Char) (n : Node) (word : List Char) : Prop where
  kind : n.kind = .identifier
  text : n.text? text = some word
  letters : ∀ x ∈ word, Text.isIdentifierPart x

/-- What the grammar says about a definition: it has one name, an identifier; the body of a class is a block; what is
decorated is one function or class. It begins with its first decorator, with `def` or with `async`. -/
structure Definite (text : List Char) (n : Node) : Prop where
  named : n.kind = .functionDefinition ∨ n.kind = .classDefinition →
    ∃ i word, n.children.filter (·.label.field = some .name) = [i] ∧ i.IsIdentifier text word
  body : n.kind = .classDefinition → n.children.filter (·.label.field = some .body) = [] ∨
    ∃ b, n.children.filter (·.label.field = some .body) = [b] ∧ b.kind = .block
  definition : n.kind = .decoratedDefinition → ∃ d, n.children.filter (·.label.field = some .definition) = [d] ∧
    (d.kind = .functionDefinition ∨ d.kind = .classDefinition)
  front : n.kind = .functionDefinition → ∃ first rest, n.children = first :: rest ∧
    first.label.start = n.label.start ∧ (first.kind = .defWord ∨ first.kind = .asyncWord)
  decorated : n.kind = .decoratedDefinition → ∃ first rest, n.children = first :: rest ∧
    first.label.start = n.label.start ∧ first.kind = .decorator

theorem definite_of_other {text : List Char} {n : Node} (other : n.kind.defines = false) : n.Definite text := by
  simp only [Kind.defines, Bool.or_eq_false_iff, decide_eq_false_iff_not] at other
  obtain ⟨⟨function, class'⟩, decorated⟩ := other
  constructor <;> simp [function, class', decorated]

end Node

section Definite

open Node

variable {text : List Char} {place : Option Place} {q : Place} {p : Production} {t : Tree} {cs : List Tree}
  {c c' : Cursor}

/-- What fills the place of an identifier is shown as one. -/
theorem isIdentifier_of_spans (within : (Cursor.start text).Reaches c) (spans : t.Spans c c')
    (identifier : t.kind = .identifier) (plain : q.shown = none) :
    ∃ n word, ofTree (some q) t = [n] ∧ n.IsIdentifier text word := by
  cases t with
  | leaf t =>
    obtain ⟨read, rfl⟩ := spans
    have kind : t.kind = .identifier := identifier
    obtain ⟨-, -, ⟨s, begins, ends, start, letters⟩, -⟩ := read.lies
    obtain ⟨word, rest, letters⟩ := letters (.inl kind)
    obtain ⟨mid, cut, sliced⟩ := Text.slice?_of_reaches (within.trans begins) ends
    obtain rfl : mid = word := List.append_cancel_right (cut.symm.trans rest)
    refine ⟨_, mid, by simp [ofTree, plain, kind, Kind.isVisible, Kind.isHidden]; rfl, rfl, ?_, letters⟩
    rw [text?, label_mk, start]
    exact sliced
  | missing k p =>
    obtain ⟨-, rfl, rfl⟩ := spans
    obtain rfl : k = .identifier := identifier
    obtain ⟨mid, cut, sliced⟩ := Text.slice?_of_reaches within (.refl _)
    obtain rfl : mid = [] := List.append_cancel_right (cut.symm.trans (List.nil_append _).symm)
    exact ⟨_, [], rfl, rfl, sliced, by simp⟩
  | node p cs d =>
    have head := (Grammar.regular spans.1).head
    have kind : p.head = .identifier := identifier
    rw [kind] at head
    contradiction
  | wreck whole extra cs d => cases whole <;> contradiction

theorem definite_make {l : Label} (known : Grammar.IsProduction p) (fits : p.fits (Tree.filling cs))
    (head : ∀ t ∈ cs.head?, t.isExtra = false) (spans : Tree.SpanAll cs c c') (within : (Cursor.start text).Reaches c)
    (start : l.start = (cs.head?.map (·.digest.start)).getD c.toPosition)
    (kind : l.kind.defines → p.head = l.kind) : (Node.mk l (ofTrees p.places cs)).Definite text := by
  have regular := Grammar.regular known
  cases defines : l.kind.defines with
  | false => exact definite_of_other defines
  | true =>
  have same : p.head = l.kind := kind defines
  have flat := regular.places (by rw [same]; exact defines)
  constructor
  · intro kind
    rw [kind_mk, ← same] at kind
    obtain ⟨q, only, -, asked⟩ := p.namedPlaces_of_sole (regular.named kind)
    simp only [Bool.and_eq_true, decide_eq_true_eq] at asked
    obtain ⟨t, b, b', begins, spans, filled, shown⟩ := filter_field_of_sole flat fits spans only
    rw [asked.1, List.mem_singleton] at filled
    obtain ⟨i, word, one, identifier⟩ := isIdentifier_of_spans (within.trans begins) spans filled asked.2
    exact ⟨i, word, shown.trans one, identifier⟩
  · intro kind
    rw [kind_mk, ← same] at kind
    obtain ⟨q, only, visible, asked⟩ := p.namedPlaces_of_sole (regular.body kind)
    obtain ⟨t, b, b', begins, spans, filled, shown⟩ := filter_field_of_sole flat fits spans only
    rcases ofTree_of_isShown spans filled visible with ⟨none, -⟩ | ⟨n, one, -, block, -⟩
    · exact .inl (shown.trans none)
    · have asked := List.all_eq_true.mp asked t.kind filled
      exact .inr ⟨n, shown.trans one, block.trans (of_decide_eq_true asked)⟩
  · intro kind
    rw [kind_mk, ← same] at kind
    obtain ⟨q, only, visible, asked⟩ := p.namedPlaces_of_sole (regular.definition kind)
    simp only [Bool.and_eq_true, decide_eq_true_eq] at asked
    obtain ⟨t, b, b', begins, spans, filled, shown⟩ := filter_field_of_sole flat fits spans only
    rcases ofTree_of_isShown spans filled visible with ⟨-, unsure⟩ | ⟨n, one, -, shownKind, -⟩
    · simp [Place.isSure, asked.2] at unsure
    · rw [asked.2, Option.getD_none] at shownKind
      rw [asked.1] at filled
      exact ⟨n, shown.trans one, by simpa [shownKind] using filled⟩
  · intro kind
    rw [kind_mk, ← same] at kind
    obtain ⟨q, rest, t, ts, places, rfl, asked, unmarked, filled⟩ := head_of_fits fits head (regular.front kind)
    simp only [Bool.and_eq_true, decide_eq_true_eq] at asked
    obtain ⟨⟨visible, plain⟩, words⟩ := asked
    obtain ⟨m, first, -⟩ := Tree.spanAll_cons.mp spans
    rcases ofTree_of_isShown first filled visible with ⟨-, unsure⟩ | ⟨n, one, -, shownKind, begins⟩
    · simp [Place.isSure, plain] at unsure
    · rw [plain, Option.getD_none] at shownKind
      have word := List.all_eq_true.mp words t.kind filled
      refine ⟨n, ofTrees rest ts, ?_, begins.trans start.symm, by simpa [shownKind] using word⟩
      rw [children_mk, places, ofTrees, unmarked]
      simp [one]
  · intro kind
    rw [kind_mk, ← same] at kind
    obtain ⟨q, rest, t, ts, places, rfl, prelude, unmarked, filled⟩ :=
      head_of_fits fits head (regular.decorated kind)
    obtain ⟨nameless, plain, fillers⟩ := isPrelude_iff.mp prelude
    obtain ⟨m, first, -⟩ := Tree.spanAll_cons.mp spans
    obtain ⟨n, ns, shown, decorator, begins⟩ :=
      (prelude_ofTree t (some q) c m nameless plain (fillers t.kind filled) first).head
    refine ⟨n, ns ++ ofTrees rest ts, ?_, begins.trans start.symm, decorator⟩
    rw [children_mk, places, ofTrees, unmarked]
    simp [shown]

/-- The name that a node gets makes no difference to what it is. -/
theorem definite_named {n : Node} {f : Option Field} (definite : n.Definite text) : (named f n).Definite text := by
  obtain ⟨l, cs⟩ := n
  obtain ⟨f', same⟩ := named_eq f l cs
  rw [same]
  exact ⟨definite.named, definite.body, definite.definition, definite.front, definite.decorated⟩

theorem defines_of_isToken {k : Kind} (token : k.isToken) : k.defines = false := by
  cases defines : k.defines with
  | false => rfl
  | true =>
    simp only [Kind.defines, Bool.or_eq_true, decide_eq_true_eq] at defines
    rcases defines with (rfl | rfl) | rfl <;> contradiction

/-- What productions make are definitions as the grammar has them. -/
theorem conferred_definite (text : List Char) : Conferred text Kind.defines (Definite text) where
  token _ := defines_of_isToken
  plain _ known := (Grammar.regular known).plain
  other _ := definite_of_other
  named _ _ := definite_named
  made := by
    rintro p cs d c c' l within ⟨known, fits, head, made, inner⟩ kind start -
    have extent := Tree.extent_make p c cs
    rw [← made] at extent
    exact definite_make known fits head inner within (start.trans extent.start) fun _ => kind

/-- Nodes side by side between two places of a text, with definitions as the grammar has them. -/
structure Node.Cover (text : List Char) (ns : List Node) (c c' : Cursor) : Prop where
  within : (Cursor.start text).Reaches c
  lie : LieAll ns c c'
  definite : ∀ n ∈ nodesOf ns, n.Definite text

/-- The children of a node cover it. -/
theorem Node.Cover.of_mem {ns : List Node} {n : Node} (cover : Cover text ns c c') (member : n ∈ ns) :
    n.Definite text ∧ ∃ s e, c.Reaches s ∧ e.Reaches c' ∧ n.label.start = s.toPosition ∧
      n.label.stop = e.toPosition ∧ Cover text n.children s e := by
  obtain ⟨s, e, begins, lies, ends⟩ := cover.lie.of_mem member
  have definite := cover.definite n (mem_nodesOf member)
  have below : ∀ m ∈ nodesOf n.children, m.Definite text := fun m below =>
    cover.definite m (children_subset member below)
  obtain ⟨l, cs⟩ := n
  obtain ⟨start, stop, inner⟩ := lies
  exact ⟨definite, s, e, begins, ends, start, stop, cover.within.trans begins, inner, below⟩

theorem Node.Cover.cons {ns : List Node} {n : Node} (cover : Cover text (n :: ns) c c') :
    ∃ e, c.Reaches e ∧ Cover text [n] c e ∧ Cover text ns e c' := by
  obtain ⟨within, ⟨s, e, begins, lies, rest⟩, definite⟩ := cover
  rw [nodesOf] at definite
  obtain ⟨here, others⟩ := List.forall_mem_append.mp definite
  have onward := begins.trans lies.reaches
  refine ⟨e, onward, ⟨within, ⟨s, e, begins, lies, .refl e⟩, ?_⟩, within.trans onward, rest, others⟩
  simpa [nodesOf] using here

/-- The nodes that are read from a text without errors cover it. -/
theorem cover_of_read {root : Node} (given : read text = .ok root) : ∃ c c', Cover text root.children c c' := by
  obtain ⟨c, c', within, lie, all⟩ := children_of_read given
  exact ⟨c, c', within, lie, all _ _ (conferred_definite text)⟩

end Definite

end CodeAudit.Syntax
