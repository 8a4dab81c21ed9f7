import CodeAudit.Proofs.Syntax.Repair
import CodeAudit.Syntax.Parse

/-! Whatever is read, the tree that parsing ends with is a derivation of the text. -/
namespace CodeAudit.Syntax

namespace Parser

variable {text : List Char} {p p' : Parser} {n v w : Nat} {b c : Cursor} {t : Token} {last : Option Nat}

/-- Heads made of a head by reductions: all from a number on, the last of which may be named. -/
structure Reduced (text : List Char) (n : Nat) (c : Cursor) (p : Parser) (last : Option Nat) : Prop where
  sound : p.Sound text
  beyond : p.ReadyFrom n c
  named : ∀ w, last = some w → n ≤ w ∧ w < p.heads.length

/-- What performing actions on a head comes to. -/
def Progress.Sound (text : List Char) (n v : Nat) (c : Cursor) : Progress → Prop
  | .done p => p.Sound text
  | .reduced p last => p.Ready v c ∧ Reduced text n c p last

theorem perform_sound (reduced : Reduced text n c p last) (ready : p.Ready v c) (less : v < n) (read : t.ReadAt c)
    {actions : List Action}
    (proposed : ∀ a ∈ actions, Automaton.Proposed t.kind a ∧ (a.moves → p.state v ≠ Automaton.lost)) :
    (perform p v t last actions).Sound text n v c := by
  induction actions generalizing p last with
  | nil => exact ⟨ready, reduced⟩
  | cons action rest ih =>
    obtain ⟨⟨here, going⟩, others⟩ := List.forall_mem_cons.mp proposed
    cases here with
    | shift target onward token =>
      unfold perform
      split
      · have allowed : false = true → t.kind.isExtra = true ∨ t.extra = true := nofun
        exact (shift_onward reduced.sound ready read allowed token (.inr (going rfl))).sound
      · exact ih reduced ready others
    | shiftExtra extra =>
      have token : t.kind ≠ .error := by
        intro error
        rw [error] at extra
        exact absurd extra (by decide)
      exact (shift_onward reduced.sound ready read (fun _ => .inl extra) token (Decidable.em _)).sound
    | reduce r known =>
      obtain ⟨onward, beyond, state, named⟩ :=
        reduce_onward reduced.sound ready (going rfl) less reduced.beyond known
      rw [← state] at others
      refine ih ⟨onward.sound, beyond, fun w found => ?_⟩ (onward.keeps v less c ready) others
      rcases Option.or_eq_some_iff.mp found with new | ⟨-, old⟩
      · exact named w new
      · obtain ⟨more, inside⟩ := reduced.named w old
        have kept := (reduce_onward reduced.sound ready (going rfl) ready.1 (p.readyFrom_length c) known).2.1.1
        exact ⟨more, Nat.lt_of_lt_of_le inside kept⟩
    | accept ended => exact (accept_onward reduced.sound ready (going rfl) read ended).sound
    | recover => exact recover_sound reduced.sound ready read

theorem allowed_of_mem_actions {state : Nat} {k : Kind} {a : Action} (member : a ∈ Automaton.actions state k) :
    Automaton.Proposed k a ∧ (a.moves → state ≠ Automaton.lost) :=
  ⟨Automaton.proposed_of_mem_actions member, Automaton.going_of_moves member⟩

theorem feed_sound (fuel : Nat) (sound : p.Sound text) (ready : p.Ready v c) (read : t.ReadAt c)
    {actions : List Action}
    (proposed : ∀ a ∈ actions, Automaton.Proposed t.kind a ∧ (a.moves → p.state v ≠ Automaton.lost)) :
    (feed fuel v t actions p).Sound text := by
  induction fuel generalizing p t actions with
  | zero => exact sound
  | succ fuel ih =>
    have alone : Reduced text p.heads.length c p none := ⟨sound, p.readyFrom_length c, fun _ absurd => nomatch absurd⟩
    have performed := perform_sound alone ready ready.1 read proposed
    unfold feed
    generalize perform p v t none actions = progress at *
    cases progress with
    | done p' => exact performed
    | reduced p' last =>
      obtain ⟨ready', sound', beyond', named⟩ := performed
      cases last with
      | some w =>
        obtain ⟨new, inside⟩ := named w rfl
        obtain ⟨ready, onward, -⟩ :=
          replace_onward sound' (beyond'.2 w new inside) (Nat.lt_of_lt_of_le ready.1 new)
        exact ih onward.sound ready read fun a => allowed_of_mem_actions
      | none =>
        dsimp only
        split
        · next word =>
          simp only [Bool.and_eq_true] at word
          exact ih sound' ready' (.word read word.1.1) fun a => allowed_of_mem_actions
        split
        · exact recover_sound sound' ready' read
        · have waiting : HeadSound p'.graph
              { p'.head v with status := .paused t, mark := (p'.top v).count } := by
            refine ⟨c, ready'.2.1, fun t' paused => ?_⟩
            obtain rfl := Status.paused.inj paused
            exact read
          exact (setHead_onward sound' waiting).sound

theorem ready_of_isActive (sound : p.Sound text) (within : v < p.heads.length) (going : (p.head v).status.isActive) :
    p.Ready v (p.place v) := by
  obtain ⟨c, there, -⟩ := sound.head v
  have ready : p.Ready v c :=
    ⟨within, there, by cases status : (p.head v).status <;> simp_all [Status.isActive, Status.isPaused]⟩
  rw [ready.place]
  exact ready

theorem advance_sound (fuel : Nat) (sound : p.Sound text) (ready : p.Ready v c) : (p.advance fuel v).Sound text := by
  have place : (p.top v).place = c := ready.place
  unfold advance
  dsimp only
  rw [place]
  exact feed_sound fuel sound ready (.next ..) fun a => allowed_of_mem_actions

theorem advanceTo_sound (fuel reach : Nat) (sound : p.Sound text) : (advanceTo fuel v (p, reach)).1.Sound text := by
  induction fuel generalizing p with
  | zero => exact sound
  | succ fuel ih =>
    unfold advanceTo
    split
    · next going =>
      obtain ⟨going, within⟩ := Bool.and_eq_true_iff.mp going
      have advanced := advance_sound fuel sound (ready_of_isActive sound (of_decide_eq_true within) going)
      dsimp only
      split
      · exact advanced
      · exact ih advanced
    · exact sound

theorem advanceAll_sound (fuel reach : Nat) (sound : p.Sound text) : (advanceAll fuel v (p, reach)).1.Sound text := by
  induction fuel generalizing p v reach with
  | zero => exact sound
  | succ fuel ih =>
    unfold advanceAll
    split
    · exact ih _ (advanceTo_sound fuel reach sound)
    · exact sound

theorem merge?_sound (sound : p.Sound text) (merged : p.merge? v w = some p') : p'.Sound text :=
  (merge?_dropped sound merged).onward.sound

theorem settle_sound (fuel i j : Nat) (sound : p.Sound text) : (settle fuel i j p).1.Sound text := by
  induction fuel generalizing p i j with
  | zero => exact sound
  | succ fuel ih =>
    unfold settle
    split
    · exact sound
    split
    · exact (remove_dropped sound i).onward.sound
    · split
      · next merged => exact merge?_sound sound merged
      · exact ih _ _ sound
    · split
      · next merged => exact merge?_sound sound merged
      · exact ih _ _ sound
    · split
      · next merged => exact merge?_sound sound merged
      · have set := (setHead_onward (v := i) sound (sound.head j)).sound
        exact ih _ _ (setHead_onward (v := j) set (sound.head i)).sound
    · exact ih _ _ (remove_dropped sound j).onward.sound

theorem sortHeads_sound (fuel i : Nat) (least : Option Nat) (sound : p.Sound text) :
    (sortHeads fuel i p least).1.Sound text := by
  induction fuel generalizing p i least with
  | zero => exact sound
  | succ fuel ih =>
    unfold sortHeads
    split
    · exact sound
    split
    · exact ih _ _ (remove_dropped sound i).onward.sound
    · exact ih _ _ (settle_sound fuel i 0 sound)

/-- A head that has waited with a token goes on where it stands. -/
theorem resume_sound (limit fuel i count : Nat) (going : Bool) (least : Option Nat) (sound : p.Sound text) :
    (resume limit fuel i count going p least).1.Sound text := by
  induction fuel generalizing p i count going least with
  | zero => exact sound
  | succ fuel ih =>
    unfold resume
    split
    · exact sound
    split
    · next t paused =>
      split
      · obtain ⟨c, there, waiting⟩ := sound.head i
        have within : i < p.heads.length := by
          rcases Nat.lt_or_ge i p.heads.length with within | beyond
          · exact within
          · rw [Parser.head, List.getElem?_eq_none beyond] at paused
            contradiction
        have set := setHead_onward (v := i) sound
          (headSound_of_at (h := { p.head i with status := .active }) there rfl)
        have ready := setHead_ready (h := { p.head i with status := .active }) within there rfl
        exact ih _ _ _ _ (handleError_sound limit set.sound ready (waiting t paused))
      · exact ih _ _ _ _ (remove_dropped sound i).onward.sound
    · exact ih _ _ _ _ sound

theorem condense_sound (fuel : Nat) (sound : p.Sound text) : (condense fuel p).1.Sound text := by
  unfold condense
  have clamped : ((List.range p.heads.length).foldl clamp p).Sound text :=
    List.foldlRecOn (motive := fun q : Parser => q.Sound text) _ _ sound fun q sound v _ => (clamp_onward sound v).sound
  have sorted := sortHeads_sound fuel 0 none clamped
  refine resume_sound _ _ _ _ _ _ ⟨sorted.graph, sorted.bottom, fun h member => ?_, sorted.finished⟩
  exact sorted.heads h (List.mem_of_mem_take member)

theorem run_whole (fuel reach : Nat) (sound : p.Sound text) {t : Tree} (ended : run fuel reach p = some t) :
    t.Whole text := by
  induction fuel generalizing p reach with
  | zero => contradiction
  | succ fuel ih =>
    unfold run at ended
    dsimp only at ended
    have condensed := condense_sound fuel (advanceAll_sound (v := 0) fuel reach sound)
    split at ended
    · next t' finished =>
      split at ended
      · obtain rfl := Option.some.inj ended
        exact condensed.finished _ finished
      · exact ih _ condensed ended
    · split at ended
      · contradiction
      · exact ih _ condensed ended

/-- Before anything is read there is one head, at the start of the text. -/
theorem start_sound (text : List Char) : (start text).Sound text := by
  have looked (j : Nat) : (start text).graph.get? j =
      if j = 0 then some { state := Automaton.begin, place := .start text } else none :=
    Sequence.get?_push Sequence.filled_empty j
  have bottom : (start text).graph.At 0 (.start text) := ⟨_, looked 0, rfl⟩
  refine ⟨⟨Sequence.filled_empty.push, ?_, ?_⟩, bottom, fun h member => ?_, nofun⟩
  · rintro n _ ⟨node, found, rfl⟩
    rw [looked] at found
    split at found
    · obtain rfl := Option.some.inj found
      exact .refl _
    · contradiction
  · intro n node found l member
    rw [looked] at found
    split at found
    · obtain rfl := Option.some.inj found
      exact absurd member List.not_mem_nil
    · contradiction
  · obtain rfl := List.mem_singleton.mp member
    exact headSound_of_at bottom rfl

end Parser

/-- The tree of a text is a derivation of it. -/
theorem whole_of_parse? {text : List Char} {t : Tree} (parsed : parse? text = some t) : t.Whole text :=
  Parser.run_whole _ _ (Parser.start_sound text) parsed

end CodeAudit.Syntax
