import CodeAudit.Proofs.Text.Reach
import CodeAudit.Syntax.Reader

/-! Where tokens lie and what they are written with. -/
namespace CodeAudit.Syntax

open Text

namespace Spelling

theorem of_mem_take_run {p : Char → Bool} {x : Char} {cs : List Char} (member : x ∈ cs.take (run p cs)) : p x := by
  induction cs with
  | nil => simp at member
  | cons c rest ih =>
    by_cases accepted : p c
    · rw [run, if_pos accepted, List.take_succ_cons] at member
      rcases List.mem_cons.mp member with rfl | later
      · exact accepted
      · exact ih later
    · simp [run, accepted] at member

end Spelling

/-- Identifiers are written with the characters of identifiers. -/
theorem isIdentifierPart_of_length? {cs : List Char} {n : Nat} (found : Kind.identifier.length? cs = some n) :
    ∀ x ∈ cs.take n, isIdentifierPart x := by
  cases cs with
  | nil => simp
  | cons c rest =>
    simp only [Kind.length?] at found
    split at found
    · next begins =>
      obtain rfl := Option.some.inj found
      rw [List.take_succ_cons]
      refine List.forall_mem_cons.mpr ⟨?_, fun x => Spelling.of_mem_take_run⟩
      simp [isIdentifierPart, begins]
    · contradiction

/-- Kinds that a token can have, that of text that is no token included. -/
def Kind.isToken (k : Kind) : Bool :=
  k = .endOfInput || k = .error || Kind.tokens.contains k

/-- What holds of the kinds by their numbers holds of all kinds. -/
theorem Kind.forall_of_numbers {P : Kind → Prop} (each : ∀ n < 300, P (.ofNat n)) (k : Kind) : P k := by
  have bound : k.ctorIdx < 300 := by cases k <;> decide
  rw [← Kind.ofNat_ctorIdx k]
  exact each k.ctorIdx bound

/-- Kinds of tokens with a rule for their text or with a spelling. -/
def Kind.isWritten (k : Kind) : Bool :=
  [.identifier, .integerLiteral, .floatLiteral, .escapeSequence, .lineContinuation, .comment, .typeConversion,
    .formatText].contains k || !k.spelling.isEmpty

theorem isWritten_of_length? {k : Kind} {cs : List Char} {n : Nat} (found : k.length? cs = some n) : k.isWritten := by
  unfold Kind.length? at found
  split at found
  case h_9 =>
    dsimp only at found
    split at found
    · next spelled => rw [Kind.isWritten, (Bool.and_eq_true_iff.mp spelled).1, Bool.or_true]
    · contradiction
  all_goals rfl

theorem isToken_of_length? {k : Kind} {cs : List Char} {n : Nat} (found : k.length? cs = some n) : k.isToken := by
  have each : ∀ k : Kind, k.isWritten → k.isToken := Kind.forall_of_numbers (by decide +kernel)
  exact each k (isWritten_of_length? found)

theorem isToken_of_keyword? {word : List Char} {k : Kind} (found : Kind.keyword? word = some k) : k.isToken := by
  have checked : Kind.keywords.all (·.2.isToken) = true := by decide
  obtain ⟨l₁, l₂, whole, -⟩ := List.lookup_eq_some_iff.mp found
  refine List.all_eq_true.mp checked (word, k) ?_
  rw [whole]
  simp

theorem length?_of_bestOf {kinds : List Kind} {cs : List Char} {k : Kind} {n : Nat}
    (found : bestOf kinds cs = some (k, n)) : k.length? cs = some n := by
  suffices sound : ∀ k n, bestOf kinds cs = some (k, n) → k.length? cs = some n from sound k n found
  unfold bestOf
  refine List.foldlRecOn (motive := fun best : Option (Kind × Nat) =>
    ∀ (k : Kind) (n : Nat), best = some (k, n) → k.length? cs = some n) kinds _ ?_ ?_
  · intro k n absurd
    contradiction
  intro best sound next _ k n
  cases measured : next.length? cs with
  | none => exact sound k n
  | some m =>
    cases best with
    | none =>
      rintro ⟨⟩
      exact measured
    | some b =>
      intro chosen
      have either : better b (next, m) = b ∨ better b (next, m) = (next, m) := by
        unfold better
        split
        · exact .inr rfl
        · split
          · exact .inr rfl
          · exact .inl rfl
      rcases either with old | new
      · exact sound k n (old ▸ chosen)
      · simp only [new, Option.some.injEq, Prod.mk.injEq] at chosen
        obtain ⟨rfl, rfl⟩ := chosen
        exact measured

theorem nextWritten_identifier {kinds : List Kind} {blanks : Nat} {cs : List Char} {w : Written}
    (found : nextWritten kinds blanks cs = some w) (identifier : w.kind = .identifier) :
    ∃ n, w.blanks = blanks + n ∧ ∀ x ∈ (cs.drop n).take w.length, isIdentifierPart x := by
  induction cs generalizing kinds blanks with
  | nil =>
    rw [nextWritten] at found
    split at found
    · obtain rfl := Option.some.inj found
      contradiction
    · contradiction
  | cons c rest ih =>
    rw [nextWritten] at found
    split at found
    · obtain rfl := Option.some.inj found
      contradiction
    split at found
    · obtain ⟨n, sum, letters⟩ := ih found
      exact ⟨n + 1, by omega, letters⟩
    · obtain ⟨⟨k, n⟩, best, rfl⟩ := Option.map_eq_some_iff.mp found
      obtain rfl : k = .identifier := identifier
      exact ⟨0, rfl, isIdentifierPart_of_length? (length?_of_bestOf best)⟩

theorem isToken_of_nextWritten {kinds : List Kind} {blanks : Nat} {cs : List Char} {w : Written}
    (found : nextWritten kinds blanks cs = some w) : w.kind.isToken := by
  induction cs generalizing kinds blanks with
  | nil =>
    rw [nextWritten] at found
    split at found
    · obtain rfl := Option.some.inj found
      rfl
    · contradiction
  | cons c rest ih =>
    rw [nextWritten] at found
    split at found
    · obtain rfl := Option.some.inj found
      rfl
    split at found
    · exact ih found
    · obtain ⟨⟨k, n⟩, best, rfl⟩ := Option.map_eq_some_iff.mp found
      exact isToken_of_length? (length?_of_bestOf best)

namespace Layout

/-- The kinds of layout tokens. -/
def kinds : List Kind :=
  [.newline, .indent, .dedent, .stringStart, .stringText, .escapeInterpolation, .stringEnd]

theorem isToken_of_kinds {k : Kind} (layout : kinds.contains k) : k.isToken := by
  have checked : ∀ k ∈ kinds, k.isToken := by decide
  exact checked k (by simpa using layout)

/-- A layout token lies behind the place where it is looked for. -/
structure Follows (c : Cursor) (t : LayoutToken) : Prop where
  start : c.Reaches t.start
  stop : t.start.Reaches t.stop
  kind : kinds.contains t.kind

theorem outside_follows {l : Layout} {welcome : Kind → Bool} {repair : Bool} {origin c : Cursor} {t : LayoutToken}
    (reaches : origin.Reaches c) (found : outside l welcome repair origin c = some t) : Follows origin t := by
  unfold outside at found
  cases read : blank false {} c.rest with
  | none => simp [read] at found
  | some b =>
    have behind : origin.Reaches (c.skip b.read) := reaches.trans (c.reaches_skip b.read)
    have empty (k : Kind) (l : Layout) (kind : kinds.contains k) :
        Follows origin ⟨k, l.save, if b.read = 0 then origin else c, c⟩ := by
      split
      · exact ⟨.refl origin, reaches, kind⟩
      · exact ⟨reaches, .refl c, kind⟩
    simp only [read] at found
    split at found
    · obtain rfl := Option.some.inj found
      exact empty _ _ (rfl)
    split at found
    · obtain rfl := Option.some.inj found
      exact empty _ _ (rfl)
    split at found
    · obtain rfl := Option.some.inj found
      exact empty _ _ (rfl)
    split at found
    · split at found
      · next q n _ =>
        obtain rfl := Option.some.inj found
        have stop := behind.trans ((c.skip b.read).reaches_skip n)
        split
        · exact ⟨.refl origin, stop, rfl⟩
        · exact ⟨behind, (c.skip b.read).reaches_skip n, rfl⟩
      · contradiction
    · contradiction

theorem scan_follows {l : Layout} {welcome : Kind → Bool} {c : Cursor} {t : LayoutToken}
    (found : scan l welcome c = some t) : Follows c t := by
  unfold scan at found
  split at found
  · exact outside_follows (.refl c) found
  simp only at found
  split at found
  · split at found
    · obtain rfl := Option.some.inj found
      exact ⟨.refl c, c.reaches_skip 2, rfl⟩
    · contradiction
  split at found
  · split at found
    · contradiction
    · next n _ =>
      obtain rfl := Option.some.inj found
      exact ⟨.refl c, c.reaches_skip n, rfl⟩
    · next n _ =>
      obtain rfl := Option.some.inj found
      exact ⟨.refl c, c.reaches_skip n, rfl⟩
    · next n _ => exact outside_follows (c.reaches_skip n) found
  · exact outside_follows (.refl c) found

end Layout

namespace Token

/-- A token that was read at a place. A keyword may have been taken for an identifier since, and what may stand
anywhere may have been marked as such. -/
inductive ReadAt (c : Cursor) : Token → Prop where
  | next (state : Nat) (layout : Option Layout) (settled : Bool) : ReadAt c (Reader.next state layout settled c)
  | word {t : Token} (read : ReadAt c t) (wordlike : t.wordlike = true) : ReadAt c { t with kind := .identifier }
  | extra {t : Token} (extra : Bool) (read : ReadAt c t) (allowed : extra = true → t.kind.isExtra ∨ t.extra) :
      ReadAt c { t with extra }

/-- How a token lies in the text from a place on. Text that is no token is not marked as something that may stand
anywhere. -/
structure Lies (c : Cursor) (t : Token) : Prop where
  extra : t.extra = true → t.kind ≠ .error
  lead : t.lead = c.toPosition
  start : ∃ s, c.Reaches s ∧ s.Reaches t.stop ∧ t.start = s.toPosition ∧
    (t.kind = .identifier ∨ t.wordlike → ∃ word, s.rest = word ++ t.stop.rest ∧ ∀ x ∈ word, isIdentifierPart x)
  kind : t.kind.isToken

end Token

namespace Reader

theorem reaches_behindMark (c : Cursor) : c.Reaches (behindMark c) := by
  unfold behindMark
  split
  · exact c.reaches_next
  · exact .refl c

variable {state mode : Nat} {layout : Option Layout} {strict : Bool} {c : Cursor} {t : Token}

theorem layoutToken?_lies (found : layoutToken? state layout strict c = some t) : t.Lies c := by
  unfold layoutToken? at found
  dsimp only at found
  split at found
  · contradiction
  next t' scanned =>
  split at found
  · contradiction
  obtain rfl := Option.some.inj found
  have follows := Layout.scan_follows scanned
  have layout := follows.kind
  have other : t'.kind ≠ .identifier := fun same => by simp [same, Layout.kinds] at layout
  have token : t'.kind.isToken := Layout.isToken_of_kinds layout
  exact ⟨nofun, rfl, ⟨_, (reaches_behindMark c).trans follows.start, follows.stop, rfl, by simp [other]⟩, token⟩

theorem writtenToken?_lies (found : writtenToken? mode state c = some t) : t.Lies c := by
  unfold writtenToken? at found
  simp only at found
  split at found
  · contradiction
  next w written =>
  let start := (behindMark c).skip w.blanks
  have begins : c.Reaches start := (reaches_behindMark c).trans ((behindMark c).reaches_skip w.blanks)
  have ends : start.Reaches (start.skip w.length) := start.reaches_skip w.length
  have token := isToken_of_nextWritten written
  split at found
  · next identifier =>
    obtain rfl := Option.some.inj found
    obtain ⟨n, blanks, letters⟩ := nextWritten_identifier written identifier
    have word : ∃ word, start.rest = word ++ (start.skip w.length).rest ∧ ∀ x ∈ word, isIdentifierPart x := by
      refine ⟨start.rest.take w.length, ?_, ?_⟩
      · rw [Cursor.rest_skip w.length, List.take_append_drop]
      · rw [Cursor.rest_skip, blanks, Nat.zero_add]
        exact letters
    have plain : (w.kind == .endOfInput) = false := by rw [identifier]; rfl
    have unmarked (k : Kind) : (w.kind == .endOfInput) = true → k ≠ .error := fun marked => by simp [plain] at marked
    unfold asKeyword
    split
    · exact ⟨unmarked _, rfl, ⟨start, begins, ends, rfl, fun _ => word⟩, token⟩
    · next keyword =>
      split
      · exact ⟨unmarked _, rfl, ⟨start, begins, ends, rfl, fun _ => word⟩, token⟩
      · exact ⟨unmarked _, rfl, ⟨start, begins, ends, rfl, fun _ => word⟩, isToken_of_keyword? keyword⟩
  · next other =>
    obtain rfl := Option.some.inj found
    refine ⟨fun ended => ?_, rfl, ⟨start, begins, ends, rfl, by simp [other]⟩, token⟩
    have ended : w.kind = .endOfInput := eq_of_beq ended
    rw [ended]
    exact nofun

theorem token?_lies (found : token? mode state layout strict c = some t) : t.Lies c := by
  rcases Option.or_eq_some_iff.mp found with layout | ⟨-, written⟩
  · exact layoutToken?_lies layout
  · exact writtenToken?_lies written

theorem reaches_junk (fuel : Nat) {stop : Cursor} (reaches : stop.Reaches c) :
    stop.Reaches (junk layout fuel stop c) := by
  induction fuel generalizing stop c with
  | zero => exact .refl stop
  | succ fuel ih =>
    let blanks := Spelling.run Spelling.isBlank c.rest
    let seen := (c.skip blanks).skip (falseStart (c.rest.drop blanks))
    have onward : stop.Reaches seen := reaches.trans ((c.reaches_skip _).trans (Cursor.reaches_skip _ _))
    have further := onward.trans seen.reaches_next
    rw [junk]
    split
    · exact .refl stop
    dsimp only
    split
    · split
      · exact .refl stop
      · exact further.trans (ih (.refl seen.next))
    · exact onward.trans (ih (.refl seen))

theorem next_lies (state : Nat) (layout : Option Layout) (settled : Bool) (c : Cursor) :
    (next state layout settled c).Lies c := by
  unfold next
  split
  · next found => exact token?_lies found
  split
  · next found =>
    split at found
    · contradiction
    · exact token?_lies found
  · let c' := behindMark c
    let start := c'.skip (Spelling.run Spelling.isBlank c'.rest)
    let seen := start.skip (falseStart start.rest)
    have begins : c.Reaches start := (reaches_behindMark c).trans (c'.reaches_skip _)
    have reads : start.Reaches seen := start.reaches_skip _
    refine ⟨nofun, rfl, ⟨start, begins, ?_, rfl, by simp⟩, rfl⟩
    dsimp only
    split
    · exact .refl start
    · refine Cursor.Reaches.trans ?_ (reaches_junk _ (.refl _))
      split
      · exact reads.trans seen.reaches_next
      · exact reads

end Reader

theorem Token.ReadAt.lies {c : Cursor} {t : Token} (read : t.ReadAt c) : t.Lies c := by
  induction read with
  | next state layout settled => exact Reader.next_lies state layout settled c
  | word _ wordlike lies =>
    obtain ⟨-, lead, ⟨s, begins, ends, start, word⟩, -⟩ := lies
    exact ⟨nofun, lead, ⟨s, begins, ends, start, fun _ => word (.inr wordlike)⟩, rfl⟩
  | @extra t _ _ allowed lies =>
    refine ⟨fun marked => ?_, lies.lead, lies.start, lies.kind⟩
    rcases allowed marked with extra | extra
    · intro error
      have error : t.kind = .error := error
      rw [error] at extra
      contradiction
    · exact lies.extra extra

end CodeAudit.Syntax
