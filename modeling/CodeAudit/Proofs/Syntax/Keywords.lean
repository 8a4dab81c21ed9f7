import CodeAudit.Proofs.Syntax.Definitions
import Mathlib.Algebra.Order.BigOperators.Group.List
import Mathlib.Algebra.Order.Group.Nat

/-! Keywords in the text. A keyword stands in the text with the letters that it is known by, and a statement that the
grammar begins with a keyword begins with these letters, unless an error lies in it. -/
namespace CodeAudit.Syntax

open Text

/-- A kind of tokens that are words told from identifiers by where they stand. -/
def Kind.isKeyword (k : Kind) : Bool :=
  k.spelling.isEmpty && Kind.keywords.any (·.2 = k)

theorem isKeyword_of_length? {k : Kind} {cs : List Char} {n : Nat} (found : k.length? cs = some n) :
    k.isKeyword = false := by
  have each : ∀ k : Kind, k.isWritten → k.isKeyword = false := Kind.forall_of_numbers (by decide +kernel)
  exact each k (isWritten_of_length? found)

theorem isKeyword_of_nextWritten {kinds : List Kind} {blanks : Nat} {cs : List Char} {w : Written}
    (found : nextWritten kinds blanks cs = some w) : w.kind.isKeyword = false := by
  induction cs generalizing kinds blanks with
  | nil =>
    rw [nextWritten] at found
    split at found
    · obtain rfl := Option.some.inj found
      rfl
    · contradiction
  | cons c rest ih =>
    rw [nextWritten] at found
    split at found
    · obtain rfl := Option.some.inj found
      rfl
    split at found
    · exact ih found
    · obtain ⟨⟨k, n⟩, best, rfl⟩ := Option.map_eq_some_iff.mp found
      exact isKeyword_of_length? (length?_of_bestOf best)

/-- A token lies behind a place, and its text is a keyword of its kind. -/
def Token.IsWord (c : Cursor) (t : Token) : Prop :=
  ∃ s word, c.Reaches s ∧ t.start = s.toPosition ∧ s.rest = word ++ t.stop.rest ∧ Kind.keyword? word = some t.kind

namespace Reader

variable {state mode : Nat} {layout : Option Layout} {strict : Bool} {c : Cursor} {t : Token}

theorem isKeyword_of_layoutToken? (found : layoutToken? state layout strict c = some t) : t.kind.isKeyword = false := by
  unfold layoutToken? at found
  dsimp only at found
  split at found
  · contradiction
  next t' scanned =>
  split at found
  · contradiction
  obtain rfl := Option.some.inj found
  have checked : ∀ k ∈ Layout.kinds, k.isKeyword = false := by decide
  exact checked _ (by simpa using (Layout.scan_follows scanned).kind)

/-- A word becomes a keyword only where it is known as that. -/
theorem keyword_of_asKeyword {word : List Char} (other : t.kind.isKeyword = false)
    (keyword : (asKeyword state word t).kind.isKeyword) :
    Kind.keyword? word = some (asKeyword state word t).kind ∧ (asKeyword state word t).start = t.start ∧
      (asKeyword state word t).stop = t.stop := by
  revert keyword
  unfold asKeyword
  split
  · simp [other]
  · next k known =>
    split
    · simp [other]
    · exact fun _ => ⟨known, rfl, rfl⟩

theorem writtenToken?_isWord (found : writtenToken? mode state c = some t) (keyword : t.kind.isKeyword) :
    t.IsWord c := by
  unfold writtenToken? at found
  simp only at found
  split at found
  · contradiction
  next w written =>
  let start := (behindMark c).skip w.blanks
  have begins : c.Reaches start := (reaches_behindMark c).trans ((behindMark c).reaches_skip w.blanks)
  have other := isKeyword_of_nextWritten written
  split at found
  · obtain rfl := Option.some.inj found
    obtain ⟨known, place, stop⟩ := keyword_of_asKeyword other keyword
    refine ⟨start, start.rest.take w.length, begins, place, ?_, known⟩
    rw [stop, Cursor.rest_skip w.length, List.take_append_drop]
  · obtain rfl := Option.some.inj found
    simp [other] at keyword

theorem token?_isWord (found : token? mode state layout strict c = some t) (keyword : t.kind.isKeyword) :
    t.IsWord c := by
  rcases Option.or_eq_some_iff.mp found with layout | ⟨-, written⟩
  · rw [isKeyword_of_layoutToken? layout] at keyword
    contradiction
  · exact writtenToken?_isWord written keyword

theorem next_isWord {settled : Bool} (found : next state layout settled c = t) (keyword : t.kind.isKeyword) :
    t.IsWord c := by
  unfold next at found
  split at found
  · next here =>
    obtain rfl := found
    exact token?_isWord here keyword
  split at found
  · next there =>
    obtain rfl := found
    split at there
    · contradiction
    · exact token?_isWord there keyword
  · obtain rfl := found
    contradiction

end Reader

/-- A keyword stands in the text with its letters. -/
theorem Token.ReadAt.isWord {c : Cursor} {t : Token} (read : t.ReadAt c) (keyword : t.kind.isKeyword) : t.IsWord c := by
  induction read with
  | next state layout settled => exact Reader.next_isWord rfl keyword
  | word => contradiction
  | extra _ _ _ ih => exact ih keyword

open Node

theorem isToken_of_isKeyword {k : Kind} (keyword : k.isKeyword) : k.isToken := by
  obtain ⟨e, listed, same⟩ := List.any_eq_true.mp (Bool.and_eq_true_iff.mp keyword).2
  have checked : ∀ e ∈ Kind.keywords, e.2.isToken := by decide
  exact of_decide_eq_true same ▸ checked e listed

/-- Every production of a node of kind `head` asks for the keyword `word` first, which repair never puts in, and no
other node is shown as one. -/
structure Opens (word head : Kind) : Prop where
  keyword : word.isKeyword
  needed : ¬ Automaton.CanMiss word
  node : head.isToken = false
  plain : ∀ p, Grammar.IsProduction p → ∀ q ∈ p.places, q.shown ≠ some head
  first : ∀ p, Grammar.IsProduction p → p.head = head →
    p.places.head?.any fun q => q.fillers = [word]

namespace Automaton

/-- The state behind `global`. A name must follow, so that nothing can end there. -/
def behindGlobal : Nat := 2565

theorem reductionsBefore_behindGlobal (k : Kind) : reductionsBefore behindGlobal k = [] := by
  have offer : (item? reduceRows (bits (describe behindGlobal) 22 11)).getD 0 = 0 := by decide +kernel
  rw [reductionsBefore, offer]
  rfl

theorem not_canMiss_globalWord : ¬ CanMiss .globalWord := by
  rintro ⟨-, state, target, behind, k, r, reduces⟩
  obtain ⟨onward, shifted⟩ := shift?_of_behind? rfl behind
  obtain rfl : target = behindGlobal := target_of_shift? (by decide +kernel) shifted
  cases proposes_of_mem reduces with
  | reduce offered => simp [reductionsBefore_behindGlobal] at offered

end Automaton

/-- The global statement is the one that `global` opens. -/
theorem opens_globalStatement : Opens .globalWord .globalStatement := by
  have checked : ∀ r ∈ Grammar.reductions, ∀ p ∈ r, (∀ q ∈ p.places, q.shown ≠ some .globalStatement) ∧
      (p.head = .globalStatement → p.places.head?.any fun q => q.fillers = [.globalWord]) := by
    decide +kernel
  refine ⟨rfl, Automaton.not_canMiss_globalWord, rfl, fun p known => ?_, fun p known => ?_⟩
  · obtain ⟨r, listed, member⟩ := known
    exact (checked r listed p member).1
  · obtain ⟨r, listed, member⟩ := known
    exact (checked r listed p member).2

/-- A node of a kind that a keyword opens begins with the keyword in the text. -/
def Node.BeginsWith (text : List Char) (word head : Kind) (n : Node) : Prop :=
  n.kind = head → ∃ before letters after, text = before ++ letters ++ after ∧
    n.label.start.offset = byteCount before ∧ Kind.keyword? letters = some word

variable {text : List Char} {word head : Kind}

theorem Opens.conferred (opens : Opens word head) : Conferred text (· = head) (Node.BeginsWith text word head) where
  token k token := by
    refine decide_eq_false fun same => ?_
    rw [same, opens.node] at token
    contradiction
  plain p known q member := by
    have plain := opens.plain p known q member
    cases shown : q.shown with
    | none => rfl
    | some k => simpa [shown] using plain
  other n other kind := absurd kind (of_decide_eq_false other)
  named n f begins := by
    obtain ⟨l, cs⟩ := n
    obtain ⟨f', same⟩ := named_eq f l cs
    rw [same]
    exact begins
  made := by
    rintro p cs d c c' l within ⟨known, fits, first, made, inner⟩ kind start - shown
    have head : p.head = head := kind.trans shown
    obtain ⟨q, rest, t, ts, places, rfl, asked, -, filled⟩ := head_of_fits fits first (opens.first p known head)
    rw [of_decide_eq_true asked, List.mem_singleton] at filled
    have keyword : t.kind.isKeyword := filled ▸ opens.keyword
    obtain ⟨m, spans, -⟩ := Tree.spanAll_cons.mp inner
    have extent := Tree.extent_make p c (t :: ts)
    rw [← made] at extent
    cases t with
    | leaf t =>
      obtain ⟨s, letters, begins, place, stands, known⟩ := spans.1.isWord keyword
      obtain ⟨before, whole, offset⟩ := (within.trans begins).front
      refine ⟨before, letters, t.stop.rest, by rw [List.append_assoc, ← stands, whole], ?_, ?_⟩
      · rw [label_mk, start, ← offset]
        exact congrArg Position.offset (extent.start.trans place)
      · rw [known]
        exact congrArg some filled
    | missing k place =>
      obtain rfl : k = word := filled
      exact absurd spans.1 opens.needed
    | node p' cs' d' =>
      have head := (Grammar.regular spans.1).head
      exact absurd (head.symm.trans (isToken_of_isKeyword keyword)) (by decide)
    | wreck whole extra cs' d' => cases whole <;> contradiction

end CodeAudit.Syntax
