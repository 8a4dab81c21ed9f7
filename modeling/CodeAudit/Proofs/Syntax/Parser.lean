import CodeAudit.Proofs.Syntax.Automaton
import CodeAudit.Proofs.Syntax.Stack

/-! The moves of the parser keep its stacks sound. Heads are followed by the places where they stand: a reduction leaves
a head where it was, and a token takes it behind itself. -/
namespace CodeAudit.Syntax

/-- The tree of a whole text: what lies side by side in it, made into one node. Among that are the children of the
node whose place it takes, and neither what was skipped nor text that is no token unless a wreck ends the text. -/
def Tree.Whole (text : List Char) (t : Tree) : Prop :=
  ∃ b c cs, (Cursor.start text).Reaches b ∧ Tree.SpanAll cs b c ∧
    ((∃ p inner, Grammar.IsProduction p ∧ p.fits (Tree.filling inner) ∧ inner ⊆ cs ∧
        ((∃ t ∈ cs, t.Ends) ∨ ∀ t ∈ cs, t.kind ≠ .skipped ∧ t.IsPart) ∧ t = Tree.make p (.start text) cs) ∨
      ∃ whole, t = Tree.skip whole false (.start text) cs)

namespace Parser

variable {text : List Char} {p p' p'' : Parser} {K K' : Nat → Prop} {n u v w : Nat} {b c : Cursor} {t : Token}

/-- A head is in use: its node exists, and the token that it may be waiting with was read where it stands. -/
def HeadSound (g : Graph) (h : Head) : Prop :=
  ∃ c, g.At h.node c ∧ ∀ t, h.status = .paused t → t.ReadAt c

/-- A parser that holds derivations of a text. -/
structure Sound (text : List Char) (p : Parser) : Prop where
  graph : p.graph.Sound text
  bottom : p.graph.At 0 (.start text)
  heads : ∀ h ∈ p.heads, HeadSound p.graph h
  finished : ∀ t, p.finished = some t → t.Whole text

/-- A head stands at a place and is not waiting. -/
def Ready (p : Parser) (v : Nat) (c : Cursor) : Prop :=
  v < p.heads.length ∧ p.graph.At (p.head v).node c ∧ (p.head v).status.isPaused = false

/-- All heads from a number on stand at a place. -/
def ReadyFrom (p : Parser) (n : Nat) (c : Cursor) : Prop :=
  n ≤ p.heads.length ∧ ∀ u, n ≤ u → u < p.heads.length → p.Ready u c

theorem readyFrom_length (p : Parser) (c : Cursor) : p.ReadyFrom p.heads.length c :=
  ⟨Nat.le_refl _, fun _ more less => absurd less (Nat.not_lt.mpr more)⟩

/-- A move of the parser that leaves the heads `K` where they are. -/
structure Onward (text : List Char) (K : Nat → Prop) (p p' : Parser) : Prop where
  sound : p'.Sound text
  graph : p.graph.Extends p'.graph
  keeps : ∀ u, K u → ∀ c, p.Ready u c → p'.Ready u c

/-- A move that takes away one head. The later ones move up. -/
structure Dropped (text : List Char) (v : Nat) (p p' : Parser) : Prop where
  onward : Onward text (· < v) p p'
  later : ∀ u, v ≤ u → ∀ c, p.Ready (u + 1) c → p'.Ready u c
  length : v < p.heads.length → p'.heads.length + 1 = p.heads.length

theorem Sound.refl (sound : p.Sound text) : Onward text K p p :=
  ⟨sound, .refl _, fun _ _ _ => id⟩

theorem Onward.trans (first : Onward text K p p') (second : Onward text K p' p'') : Onward text K p p'' :=
  ⟨second.sound, first.graph.trans second.graph, fun u mine c ready =>
    second.keeps u mine c (first.keeps u mine c ready)⟩

theorem Onward.mono (onward : Onward text K p p') (fewer : ∀ u, K' u → K u) : Onward text K' p p' :=
  ⟨onward.sound, onward.graph, fun u mine => onward.keeps u (fewer u mine)⟩

theorem HeadSound.mono {g g' : Graph} {h : Head} (sound : HeadSound g h) (onward : g.Extends g') : HeadSound g' h := by
  obtain ⟨c, there, waiting⟩ := sound
  exact ⟨c, onward.at there, waiting⟩

/-- A head that is not waiting only needs a node. -/
theorem headSound_of_at {g : Graph} {h : Head} (there : g.At h.node c) (going : h.status.isPaused = false) :
    HeadSound g h := by
  refine ⟨c, there, fun t paused => ?_⟩
  rw [paused] at going
  contradiction

theorem Sound.head (sound : p.Sound text) (v : Nat) : HeadSound p.graph (p.head v) := by
  unfold Parser.head
  cases found : p.heads[v]? with
  | none => exact headSound_of_at sound.bottom rfl
  | some h => exact sound.heads h (List.mem_of_getElem? found)

theorem Ready.top (ready : p.Ready v c) :
    p.graph.get? (p.head v).node = some (p.top v) ∧ (p.top v).place = c := by
  obtain ⟨-, ⟨node, found, place⟩, -⟩ := ready
  have top : p.top v = node := by rw [Parser.top, found]; rfl
  rw [top]
  exact ⟨found, place⟩

theorem Ready.place (ready : p.Ready v c) : p.place v = c :=
  ready.top.2

theorem state_eq (p : Parser) (v : Nat) : p.state v = p.graph.state (p.head v).node := by
  unfold Parser.state top Graph.state
  cases p.graph.get? (p.head v).node <;> rfl

/-- A head that keeps its node keeps its state. -/
theorem state_of_node (sound : p.Sound text) (onward : p.graph.Extends p'.graph)
    (node : (p'.head v).node = (p.head v).node) : p'.state v = p.state v := by
  obtain ⟨c, there, -⟩ := sound.head v
  rw [state_eq, state_eq, node, onward.state there]

theorem Ready.within (ready : p.Ready v c) (sound : p.Sound text) : (Cursor.start text).Reaches c :=
  sound.graph.within _ _ ready.2.1

theorem head_setHead (h : Head) : (p.setHead v h).head u = if u = v ∧ v < p.heads.length then h else p.head u := by
  unfold setHead Parser.head
  by_cases same : v = u
  · subst same
    by_cases within : v < p.heads.length
    · simp [within]
    · simp [within]
  · simp [same, Ne.symm same]

/-- Changes to a head that leave it where it stands make no difference to the others. -/
theorem setHead_onward (sound : p.Sound text) {h : Head} (head : HeadSound p.graph h) :
    Onward text (· ≠ v) p (p.setHead v h) := by
  refine ⟨⟨sound.graph, sound.bottom, fun h' member => ?_, sound.finished⟩, .refl _, fun u other c ready => ?_⟩
  · rcases List.mem_or_eq_of_mem_set member with old | rfl
    · exact sound.heads h' old
    · exact head
  · obtain ⟨within, there, going⟩ := ready
    refine ⟨by simpa [setHead] using within, ?_⟩
    rw [head_setHead, if_neg fun same => other same.1]
    exact ⟨there, going⟩

theorem setHead_ready {h : Head} (within : v < p.heads.length) (there : p.graph.At h.node c)
    (going : h.status.isPaused = false) : (p.setHead v h).Ready v c := by
  refine ⟨by simpa [setHead] using within, ?_⟩
  rw [head_setHead, if_pos ⟨rfl, within⟩]
  exact ⟨there, going⟩

/-- A head that keeps its node and what it is waiting for stays where it is. -/
theorem setHead_same (sound : p.Sound text) {h : Head} (node : h.node = (p.head v).node)
    (status : h.status = (p.head v).status) : Onward text (fun _ => True) p (p.setHead v h) := by
  have head : HeadSound p.graph h := by
    obtain ⟨c, there, waiting⟩ := sound.head v
    exact ⟨c, by rwa [node], by rwa [status]⟩
  have onward := setHead_onward (v := v) sound head
  refine ⟨onward.sound, onward.graph, fun u _ c ready => ?_⟩
  by_cases same : u = v
  · subst same
    obtain ⟨within, there, going⟩ := ready
    exact setHead_ready within (by rwa [node]) (by rwa [status])
  · exact onward.keeps u same c ready

theorem clamp_onward (sound : p.Sound text) (v : Nat) : Onward text (fun _ => True) p (p.clamp v) :=
  setHead_same sound rfl rfl

theorem halt_onward (sound : p.Sound text) (v : Nat) : Onward text (· ≠ v) p (p.halt v) := by
  obtain ⟨c, there, -⟩ := sound.head v
  exact setHead_onward sound (headSound_of_at there rfl)

theorem head_remove (p : Parser) (u v : Nat) :
    (p.remove v).head u = if u < v then p.head u else p.head (u + 1) := by
  unfold remove Parser.head
  split
  · next less => rw [List.getElem?_eraseIdx_of_lt less]
  · next more => rw [List.getElem?_eraseIdx_of_ge (Nat.le_of_not_lt more)]

theorem remove_length (within : v < p.heads.length) : (p.remove v).heads.length + 1 = p.heads.length := by
  unfold remove
  rw [List.length_eraseIdx, if_pos within]
  omega

theorem remove_dropped (sound : p.Sound text) (v : Nat) : Dropped text v p (p.remove v) := by
  refine ⟨⟨⟨sound.graph, sound.bottom, fun h member => sound.heads h (List.mem_of_mem_eraseIdx member), sound.finished⟩,
    .refl _, fun u less c ready => ?_⟩, fun u after c ready => ?_, remove_length⟩
  · obtain ⟨within, there, going⟩ := ready
    refine ⟨?_, ?_⟩
    · unfold remove
      rw [List.length_eraseIdx]
      split <;> omega
    · rw [head_remove, if_pos less]
      exact ⟨there, going⟩
  · obtain ⟨within, there, going⟩ := ready
    have length := remove_length (p := p) (v := v) (by omega)
    refine ⟨by omega, ?_⟩
    rw [head_remove, if_neg (Nat.not_lt.mpr after)]
    exact ⟨there, going⟩

/-- A head takes a step up over a tree. -/
theorem push_onward (sound : p.Sound text) (ready : p.Ready v b) {x : Option Tree} (crosses : Crosses x b c)
    {state : Nat} (follows : Follows x (p.state v) state) :
    Onward text (· ≠ v) p (p.push v x state) ∧ (p.push v x state).Ready v c ∧ (p.push v x state).state v = state := by
  obtain ⟨within, there, going⟩ := ready
  rw [state_eq] at follows
  obtain ⟨graph, onward, top, here⟩ := Graph.push_sound sound.graph there crosses follows
  let mid : Parser := { p with graph := p.graph.push (p.graph.above (p.head v).node x state) }
  have midSound : mid.Sound text :=
    ⟨graph, onward.at sound.bottom, fun h member => (sound.heads h member).mono onward, sound.finished⟩
  have changed : p.push v x state = mid.setHead v
      { p.head v with
        node := p.graph.size
        mark := if x.isNone then (p.graph.above (p.head v).node x state).count else (p.head v).mark } := rfl
  rw [changed]
  have set := setHead_onward (v := v) midSound (headSound_of_at (h := { p.head v with
    node := p.graph.size
    mark := if x.isNone then (p.graph.above (p.head v).node x state).count else (p.head v).mark }) top going)
  refine ⟨⟨set.sound, onward.trans set.graph, fun u other d ready => ?_⟩, setHead_ready within top going, ?_⟩
  · obtain ⟨within', there', going'⟩ := ready
    exact set.keeps u other d ⟨within', onward.at there', going'⟩
  · have same : v = v ∧ v < mid.heads.length := ⟨rfl, within⟩
    rw [state_eq, head_setHead, if_pos same]
    exact here

theorem push_length (p : Parser) (v : Nat) (tree : Option Tree) (state : Nat) :
    (p.push v tree state).heads.length = p.heads.length := by
  simp [push]

theorem pushAll_onward (sound : p.Sound text) (ready : p.Ready v b) {trees : List Tree} (spans : Tree.SpanAll trees b c)
    (extras : ∀ t ∈ trees, t.isExtra) {state : Nat} (going : state = Automaton.lost ∨ p.state v ≠ Automaton.lost) :
    Onward text (· ≠ v) p (p.pushAll v trees state) ∧ (p.pushAll v trees state).Ready v c ∧
      (p.pushAll v trees state).heads.length = p.heads.length := by
  induction trees generalizing p b with
  | nil =>
    obtain rfl : c = b := spans
    exact ⟨sound.refl, ready, rfl⟩
  | cons t trees ih =>
    obtain ⟨m, first, rest⟩ := Tree.spanAll_cons.mp spans
    obtain ⟨extra, extras⟩ := List.forall_mem_cons.mp extras
    have follows : Follows (some t) (p.state v) state :=
      going.imp_right fun going => ⟨t, rfl, Tree.kind_ne_skipped_of_isExtra first extra, .inl going⟩
    obtain ⟨onward, ready, top⟩ := push_onward sound ready (x := some t)
      ⟨first, Tree.isPart_of_isExtra first extra⟩ follows
    obtain ⟨onward', ready', length⟩ := ih onward.sound ready rest extras (by rw [top]; exact Decidable.em _)
    exact ⟨onward.trans onward', ready', length.trans (push_length ..)⟩

theorem head_append (h : Head) : ({ p with heads := p.heads ++ [h] } : Parser).head u =
    if u = p.heads.length then h else p.head u := by
  unfold Parser.head
  rcases Nat.lt_trichotomy u p.heads.length with less | rfl | more
  · rw [List.getElem?_append_left less, if_neg (Nat.ne_of_lt less)]
  · simp
  · rw [if_neg (Nat.ne_of_gt more)]
    simp [List.getElem?_append_right (Nat.le_of_lt more), List.getElem?_eq_none (Nat.le_of_lt more),
      Nat.sub_ne_zero_of_lt more]

theorem append_onward (sound : p.Sound text) {h : Head} (there : p.graph.At h.node c)
    (going : h.status.isPaused = false) :
    Onward text (fun _ => True) p { p with heads := p.heads ++ [h] } ∧
      ({ p with heads := p.heads ++ [h] } : Parser).Ready p.heads.length c := by
  refine ⟨⟨⟨sound.graph, sound.bottom, fun h' member => ?_, sound.finished⟩, .refl _, fun u _ d ready => ?_⟩, ?_⟩
  · rcases List.mem_append.mp member with old | new
    · exact sound.heads h' old
    · obtain rfl := List.mem_singleton.mp new
      exact headSound_of_at there going
  · obtain ⟨within, rest⟩ := ready
    refine ⟨by simp; omega, ?_⟩
    rw [head_append, if_neg (Nat.ne_of_lt within)]
    exact rest
  · refine ⟨by simp, ?_⟩
    rw [head_append, if_pos rfl]
    exact ⟨there, going⟩

theorem state_fork (p : Parser) (v node : Nat) : (p.fork v node).state p.heads.length = p.graph.state node := by
  rw [state_eq, fork, head_append, if_pos rfl]

/-- A new head stands at its node. -/
theorem fork_onward (sound : p.Sound text) {node : Nat} (there : p.graph.At node c) (v : Nat) :
    Onward text (fun _ => True) p (p.fork v node) ∧ (p.fork v node).Ready p.heads.length c :=
  append_onward sound there rfl

theorem fork_length (p : Parser) (v node : Nat) : (p.fork v node).heads.length = p.heads.length + 1 := by
  simp [fork]

/-- A head that takes the place of an earlier one stands where it stood. -/
theorem replace_onward (sound : p.Sound text) (ready : p.Ready w c) (less : v < w) :
    (p.replace w v).Ready v c ∧ Onward text (fun u => u ≠ v ∧ u < w) p (p.replace w v) ∧
      (∀ u, w ≤ u → ∀ d, p.Ready (u + 1) d → (p.replace w v).Ready u d) ∧
      (p.replace w v).heads.length + 1 = p.heads.length := by
  obtain ⟨within, there, going⟩ := ready
  let h := { p.head w with resorts := (p.head w).resorts.or (p.head v).resorts }
  have length : (p.setHead v h).heads.length = p.heads.length := by simp [setHead]
  have set := setHead_onward (v := v) sound (headSound_of_at (h := h) there going)
  have removed := remove_dropped set.sound w
  rw [← length] at within
  refine ⟨removed.onward.keeps v less c (setHead_ready (by omega) there going),
    (set.mono fun u mine => mine.1).trans (removed.onward.mono fun u mine => mine.2), fun u after d ready => ?_,
    (removed.length within).trans length⟩
  exact removed.later u after d (set.keeps (u + 1) (by omega) d ready)

/-- Merging adds to a head what leads up to the same place. The head that was merged into it is gone. -/
theorem merge?_dropped (sound : p.Sound text) (merged : p.merge? v w = some p') : Dropped text w p p' := by
  unfold merge? at merged
  split at merged
  · next can =>
    have alike : Graph.alike (p.top v) (p.top w) := by
      simp only [canMerge, Bool.and_eq_true] at can
      exact can.1.2
    obtain ⟨a, ⟨node, found, rfl⟩, -⟩ := sound.head v
    obtain ⟨b, ⟨node', found', rfl⟩, -⟩ := sound.head w
    have top : p.top v = node := by rw [Parser.top, found]; rfl
    have top' : p.top w = node' := by rw [Parser.top, found']; rfl
    rw [top, top'] at alike
    have place := Graph.place_eq_of_alike sound.graph found found' alike
    have state := Graph.state_eq_of_alike alike
    obtain ⟨graph, onward⟩ : Graph.Sound text (node'.links.foldl
          (fun g l => g.addLink (p.graph.size + 1) (p.head v).node l) p.graph) ∧
        p.graph.Extends (node'.links.foldl (fun g l => g.addLink (p.graph.size + 1) (p.head v).node l) p.graph) := by
      refine List.foldlRecOn (motive := fun g => Graph.Sound text g ∧ p.graph.Extends g) _ _
        ⟨sound.graph, .refl _⟩ ?_
      rintro g ⟨sound', onward⟩ l member
      have leads := (sound.graph.links _ node' found' l member).mono onward
      have here : p.graph.At (p.head v).node node.place := ⟨node, found, rfl⟩
      rw [← place, ← state, ← Graph.state_eq found, ← onward.state here] at leads
      obtain ⟨sound'', onward'⟩ := Graph.addLink_sound (p.graph.size + 1) sound' (onward.at here) leads
      exact ⟨sound'', onward.trans onward'⟩
    rw [top'] at merged
    dsimp only at merged
    generalize node'.links.foldl (fun g l => g.addLink (p.graph.size + 1) (p.head v).node l) p.graph = g at *
    let mid : Parser := { p with graph := g }
    have first : Onward text (fun _ => True) p mid := by
      refine ⟨⟨graph, onward.at sound.bottom, fun h member => (sound.heads h member).mono onward, sound.finished⟩,
        onward, fun u _ c ready => ?_⟩
      obtain ⟨within, there, going⟩ := ready
      exact ⟨within, onward.at there, going⟩
    obtain ⟨mid', second, length, rfl⟩ : ∃ mid', Onward text (fun _ => True) p mid' ∧
        mid'.heads.length = p.heads.length ∧ p' = mid'.remove w := by
      obtain rfl := Option.some.inj merged
      refine ⟨_, ?_, ?_, rfl⟩
      · split
        · exact first.trans (setHead_same first.sound rfl rfl)
        · exact first
      · split <;> simp [setHead]
    have removed := remove_dropped second.sound w
    refine ⟨(second.mono fun _ _ => trivial).trans removed.onward, fun u after d ready => ?_, ?_⟩
    · exact removed.later u after d (second.keeps (u + 1) trivial d ready)
    · rw [← length]
      exact removed.length
  · contradiction

theorem mergeFirst?_dropped (sound : p.Sound text) {others : List Nat} (merged : p.mergeFirst? w others = some p') :
    Dropped text w p p' := by
  induction others with
  | nil => contradiction
  | cons v rest ih =>
    rcases Option.or_eq_some_iff.mp merged with here | ⟨-, later⟩
    · exact merge?_dropped sound here
    · exact ih later

theorem isBeaten_onward (sound : p.Sound text) (v : Nat) (mine : Standing) (others : List Nat) :
    Onward text (fun _ => True) p (isBeaten v mine others p).2 := by
  induction others generalizing p with
  | nil => exact sound.refl
  | cons i rest ih =>
    have clamped := clamp_onward sound i
    unfold isBeaten
    split
    · dsimp only
      split
      · exact clamped
      · split
        · exact clamped
        · exact clamped.trans (ih clamped.sound)
      · exact clamped.trans (ih clamped.sound)
    · exact ih sound

theorem betterExists_onward (sound : p.Sound text) (v cost : Nat) :
    Onward text (fun _ => True) p (p.betterExists v cost).2 := by
  unfold betterExists
  split
  · exact sound.refl
  · have clamped := clamp_onward sound v
    exact clamped.trans (isBeaten_onward clamped.sound v _ _)

/-- The best node is made of one of the lists. -/
theorem bestNode_eq_some {r : Reduction} {lists : List (List Tree)} {best : Tree × List Tree}
    (found : bestNode r c lists = some best) :
    ∃ trees ∈ lists, Tree.reduce? r c (Tree.splitExtras trees).1 = some best.1 ∧
      best.2 = (Tree.splitExtras trees).2 := by
  suffices all : ∀ best', bestNode r c lists = some best' → ∃ trees ∈ lists,
      Tree.reduce? r c (Tree.splitExtras trees).1 = some best'.1 ∧ best'.2 = (Tree.splitExtras trees).2 from
    all best found
  unfold bestNode
  refine List.foldlRecOn (motive := fun best : Option (Tree × List Tree) => ∀ best', best = some best' →
    ∃ trees ∈ lists, Tree.reduce? r c (Tree.splitExtras trees).1 = some best'.1 ∧
      best'.2 = (Tree.splitExtras trees).2) lists _ (fun _ absurd => by contradiction) ?_
  intro best sound trees member best' chosen
  dsimp only at chosen
  split at chosen
  · exact sound best' chosen
  · next t made =>
    obtain rfl := Option.some.inj chosen
    exact ⟨trees, member, made, rfl⟩
  · next t b extras made =>
    split at chosen
    · obtain rfl := Option.some.inj chosen
      exact ⟨trees, member, made, rfl⟩
    · exact sound best' chosen

/-- The node of a reduction and the extras behind it take the place of the trees that were popped. -/
theorem bestNode_spans {r : Reduction} (known : r ∈ Grammar.reductions) {lists : List (List Tree)} {t : Tree}
    {extras : List Tree}
    (popped : ∀ trees ∈ lists, Tree.SpanAll trees b c ∧
      ((Tree.filling trees).length = r.length → ∀ t ∈ trees.head?, t.isExtra = false))
    (found : bestNode r b lists = some (t, extras)) :
    (t.Spans b (t.digest.stop) ∧ t.IsPart) ∧ Tree.SpanAll extras t.digest.stop c ∧ ∀ e ∈ extras, e.isExtra := by
  obtain ⟨trees, member, made, rfl⟩ := bestNode_eq_some found
  obtain ⟨spans, head⟩ := popped trees member
  rw [← Tree.splitExtras_append trees] at spans
  obtain ⟨m, children, extras⟩ := Tree.spanAll_append.mp spans
  -- The children fit a production, so that there are as many of them as were asked for.
  have counted : (Tree.filling trees).length = r.length := by
    obtain ⟨p, member, -, fits, -⟩ := Tree.reduce?_eq_some known made
    rw [← Tree.filling_splitExtras, ← Production.length_of_fits fits]
    exact Grammar.places_length known member
  have spans := Tree.reduce?_spans known (Tree.splitExtras_head (head counted)) children made
  rw [spans.lies.stop]
  refine ⟨⟨spans, ?_⟩, extras, fun e => Tree.isExtra_of_mem_splitExtras⟩
  obtain ⟨p, -, same⟩ := Option.map_eq_some_iff.mp made
  rintro leaf rfl
  contradiction

/-- What was popped from a head may be reduced onto a bared node, as a new head in the same place. -/
theorem reduceOnto_onward (sound : p.Sound text) (beyond : p.ReadyFrom n c) {r : Reduction}
    (known : r ∈ Grammar.reductions) {bared : Nat × List (List Tree)}
    (popped : ∀ trees ∈ bared.2, p.graph.Bared c bared.1 trees ∧
      ((Tree.filling trees).length = r.length → ∀ t ∈ trees.head?, t.isExtra = false) ∧ p.graph.Kept bared.1 trees) :
    Onward text (· < n) p (p.reduceOnto v r bared) ∧ (p.reduceOnto v r bared).ReadyFrom n c := by
  obtain ⟨node, lists⟩ := bared
  unfold reduceOnto
  dsimp only
  split
  · exact ⟨sound.refl, beyond⟩
  split
  · exact ⟨sound.refl, beyond⟩
  next tree extras found =>
  obtain ⟨trees, member, made, -⟩ := bestNode_eq_some found
  obtain ⟨⟨b, there, -⟩, -, kept⟩ := popped trees member
  obtain ⟨q, -, production, fits, shape⟩ := Tree.reduce?_eq_some known made
  rw [Tree.filling_splitExtras] at fits
  have going := kept.going production fits
  have kind : tree.kind ≠ .skipped := by
    have shape : tree = _ := shape
    rw [shape]
    exact (Grammar.sound_kinds production).1.2
  have below : ((p.graph.get? node).getD (p.top v)).place = b := by
    obtain ⟨there', found, rfl⟩ := there
    rw [found]
    rfl
  rw [below] at found
  have lists (trees : List Tree) (member : trees ∈ lists) : Tree.SpanAll trees b c ∧
      ((Tree.filling trees).length = r.length → ∀ t ∈ trees.head?, t.isExtra = false) := by
    obtain ⟨⟨b', there', spans⟩, head, -⟩ := popped trees member
    obtain rfl := there.unique there'
    exact ⟨spans, head⟩
  obtain ⟨crosses, rest, extra⟩ := bestNode_spans known lists found
  generalize (Automaton.goto? _ _).getD Automaton.lost = state
  obtain ⟨forked, top⟩ := fork_onward sound there v
  have follows : Follows (some tree) ((p.fork v node).state p.heads.length) state := by
    rw [state_fork]
    exact .inr ⟨tree, rfl, kind, .inl going⟩
  obtain ⟨pushed, top, here⟩ := push_onward forked.sound top (x := some tree) crosses follows
  obtain ⟨all, top, length⟩ := pushAll_onward pushed.sound top rest extra (by rw [here]; exact Decidable.em _)
  rw [push_length, fork_length] at length
  have onward := (forked.mono fun _ _ => trivial).trans (pushed.trans all)
  generalize ((p.fork v node).push p.heads.length (some tree) state).pushAll p.heads.length extras state = p' at *
  have upTo : n ≤ p.heads.length := beyond.1
  have old : Onward text (· < n) p p' := onward.mono fun u less => by omega
  cases merged : p'.mergeFirst? p.heads.length ((List.range p.heads.length).filter (· != v)) with
  | none =>
    refine ⟨old, ⟨by simp only [Option.getD_none]; omega, fun u after within => ?_⟩⟩
    rw [Option.getD_none] at within ⊢
    by_cases last : u = p.heads.length
    · rw [last]
      exact top
    · exact onward.keeps u last c (beyond.2 u after (by omega))
  | some p'' =>
    obtain ⟨merging, -, length'⟩ := mergeFirst?_dropped onward.sound merged
    rw [Option.getD_some]
    have length' := length' (by omega)
    refine ⟨old.trans (merging.mono fun u less => by omega), ⟨by omega, fun u after within => ?_⟩⟩
    exact merging.keeps u (by omega) c (onward.keeps u (by omega) c (beyond.2 u after (by omega)))

theorem head_push (p : Parser) (x : Option Tree) (state : Nat) (other : u ≠ v) :
    (p.push v x state).head u = p.head u := by
  simp [push, Parser.head, Ne.symm other]

theorem head_pushAll (p : Parser) (trees : List Tree) (state : Nat) (other : u ≠ v) :
    (p.pushAll v trees state).head u = p.head u := by
  induction trees generalizing p with
  | nil => rfl
  | cons t trees ih => exact (ih _).trans (head_push p _ state other)

theorem node_merge? (less : u < w) (merged : p.merge? v w = some p') : (p'.head u).node = (p.head u).node := by
  unfold merge? at merged
  split at merged
  · obtain rfl := Option.some.inj merged
    rw [head_remove, if_pos less]
    split
    · rw [head_setHead]
      split
      · next same => rw [same.1]; rfl
      · rfl
    · rfl
  · contradiction

theorem node_mergeFirst? (less : u < w) {others : List Nat} (merged : p.mergeFirst? w others = some p') :
    (p'.head u).node = (p.head u).node := by
  induction others with
  | nil => contradiction
  | cons v rest ih =>
    rcases Option.or_eq_some_iff.mp merged with here | ⟨-, later⟩
    · exact node_merge? less here
    · exact ih later

/-- The heads that there were keep their nodes when others are made. -/
theorem node_reduceOnto (p : Parser) (v : Nat) (r : Reduction) (bared : Nat × List (List Tree))
    (less : u < p.heads.length) : ((p.reduceOnto v r bared).head u).node = (p.head u).node := by
  obtain ⟨node, lists⟩ := bared
  unfold reduceOnto
  dsimp only
  split
  · rfl
  split
  · rfl
  have other := Nat.ne_of_lt less
  generalize (Automaton.goto? _ _).getD Automaton.lost = state
  rename_i tree extras _
  have old : (((p.fork v node).push p.heads.length (some tree) state).pushAll p.heads.length extras state).head u =
      p.head u := by
    rw [head_pushAll _ _ _ other, head_push _ _ _ other, fork, head_append, if_neg other]
  cases merged : Parser.mergeFirst? _ p.heads.length ((List.range p.heads.length).filter (· != v)) with
  | none => rw [Option.getD_none, old]
  | some p' => rw [Option.getD_some, node_mergeFirst? less merged, old]

/-- A reduction on a head that has not lost its way gives new heads in the same place. -/
theorem reduce_onward (sound : p.Sound text) (ready : p.Ready v c) (going : p.state v ≠ Automaton.lost)
    (less : v < n) (beyond : p.ReadyFrom n c) {r : Reduction} (known : r ∈ Grammar.reductions) :
    Onward text (· < n) p (p.reduce v r).1 ∧ (p.reduce v r).1.ReadyFrom n c ∧
      (p.reduce v r).1.state v = p.state v ∧
      ∀ w, (p.reduce v r).2 = some w → n ≤ w ∧ w < (p.reduce v r).1.heads.length := by
  obtain ⟨onward, beyond', node⟩ : Onward text (· < n) p (p.reduce v r).1 ∧ (p.reduce v r).1.ReadyFrom n c ∧
      ((p.reduce v r).1.head v).node = (p.head v).node := by
    refine List.foldlRecOn (motive := fun p' => Onward text (· < n) p p' ∧ p'.ReadyFrom n c ∧
      (p'.head v).node = (p.head v).node) _ _ ⟨sound.refl, beyond, rfl⟩ ?_
    rintro p' ⟨onward, beyond', node⟩ bared member
    have popped := (Graph.pop_all sound.graph ready.2.1 r.length bared member).2
    have popped' : ∀ trees ∈ bared.2, p'.graph.Bared c bared.1 trees ∧
        ((Tree.filling trees).length = r.length → ∀ t ∈ trees.head?, t.isExtra = false) ∧
        p'.graph.Kept bared.1 trees := by
      intro trees member'
      obtain ⟨⟨b, there, spans⟩, head, kept⟩ := popped trees member'
      rw [← state_eq] at kept
      exact ⟨⟨b, onward.graph.at there, spans⟩, head, (kept going).mono onward.graph there⟩
    obtain ⟨onward', beyond''⟩ := reduceOnto_onward onward.sound beyond' known popped'
    have kept := node_reduceOnto p' v r bared (Nat.lt_of_lt_of_le less beyond'.1)
    exact ⟨onward.trans onward', beyond'', kept.trans node⟩
  refine ⟨onward, beyond', state_of_node sound onward.graph node, fun w named => ?_⟩
  unfold reduce at named ⊢
  dsimp only at named ⊢
  split at named
  · next more =>
    obtain rfl := Option.some.inj named
    exact ⟨beyond.1, more⟩
  · contradiction

theorem kind_ne_skipped_of_readAt (read : t.ReadAt c) : t.kind ≠ .skipped := by
  intro same
  have token := read.lies.kind
  rw [same] at token
  contradiction

theorem shift_onward (sound : p.Sound text) (ready : p.Ready v c) {t : Token} (read : t.ReadAt c) {extra : Bool}
    (allowed : extra = true → t.kind.isExtra ∨ t.extra) (token : t.kind ≠ .error) {state : Nat}
    (going : state = Automaton.lost ∨ p.state v ≠ Automaton.lost) :
    Onward text (· ≠ v) p (p.shift v t extra state) := by
  have part : Tree.IsPart (.leaf { t with extra }) := by
    rintro leaf ⟨⟩
    exact token
  have kind : t.kind ≠ .skipped := kind_ne_skipped_of_readAt read
  have follows : Follows (some (.leaf { t with extra })) (p.state v) state :=
    going.imp_right fun going => ⟨_, rfl, kind, .inl going⟩
  obtain ⟨onward, -⟩ := push_onward sound ready (x := some (.leaf { t with extra }))
    ⟨⟨.extra extra read allowed, rfl⟩, part⟩ follows
  unfold shift
  dsimp only
  split
  · exact onward
  · refine onward.trans (Onward.mono (setHead_same onward.sound ?_ ?_) fun _ _ => trivial) <;> rfl

/-- What lies on a whole stack makes a whole tree. -/
theorem wholeTree?_whole {trees : List Tree} (within : (Cursor.start text).Reaches b) (spans : Tree.SpanAll trees b c)
    (kept : (∃ t ∈ trees, t.Ends) ∨ ∀ t ∈ trees, t.kind ≠ .skipped ∧ t.IsPart) {t : Tree}
    (made : wholeTree? (.start text) trees = some t) : t.Whole text := by
  have whole := Tree.splitExtras_append trees
  unfold wholeTree? at made
  generalize Tree.splitExtras trees = parts at made whole
  obtain ⟨children, extras⟩ := parts
  dsimp only at made whole
  cases found : children.getLast? with
  | none => simp [found] at made
  | some last =>
    obtain ⟨others, rfl⟩ := List.getLast?_eq_some_iff.mp found
    rw [← whole] at spans kept
    obtain ⟨m, front, back⟩ := Tree.spanAll_append.mp spans
    obtain ⟨m', first, final⟩ := Tree.spanAll_append.mp front
    have final := Tree.spanAll_singleton.mp final
    -- The last tree that is no extra takes the others in, so that its children stand in its place.
    have opened {cs : List Tree} (inner : Tree.SpanAll cs m' m) :
        Tree.SpanAll ((others ++ [last]).dropLast ++ cs ++ extras) b c := by
      rw [List.dropLast_concat]
      exact Tree.spanAll_append.mpr ⟨m, Tree.spanAll_append.mpr ⟨m', first, inner⟩, back⟩
    rw [found] at made
    cases last with
    | leaf => contradiction
    | missing => contradiction
    | node q cs d =>
      obtain rfl := Option.some.inj made
      obtain ⟨known, fits, -, -, inner⟩ := id final
      refine ⟨b, c, _, within, opened inner, .inl ⟨q, cs, known, fits, fun t member => ?_, ?_, rfl⟩⟩
      · exact List.mem_append_left _ (List.mem_append_right _ member)
      rw [List.dropLast_concat]
      simp only [List.mem_append, List.mem_singleton] at kept ⊢
      refine kept.imp ?_ fun unskipped t member => ?_
      · rintro ⟨t, (member | rfl) | extra, ends⟩
        · exact ⟨t, .inl (.inl member), ends⟩
        · exact absurd ends.kind (Grammar.sound_kinds known).1.1
        · exact ⟨t, .inr extra, ends⟩
      · rcases member with (member | member) | extra
        · exact unskipped t (.inl (.inl member))
        · exact ⟨final.kind_ne_skipped member, final.isPart_of_mem member⟩
        · exact unskipped t (.inr extra)
    | wreck entire extra cs d =>
      obtain rfl := Option.some.inj made
      obtain ⟨-, -, inner⟩ := final
      exact ⟨b, c, _, within, opened inner, .inr ⟨entire, rfl⟩⟩

/-- The end of the text finishes a head with whole trees. -/
theorem accept_onward (sound : p.Sound text) (ready : p.Ready v c) (going : p.state v ≠ Automaton.lost)
    (read : t.ReadAt c) (ended : t.kind = .endOfInput) : Onward text (· ≠ v) p (p.accept v t) := by
  have part : Tree.IsPart (.leaf t) := by
    rintro leaf ⟨⟩
    rw [ended]
    decide
  have follows : Follows (some (.leaf t)) (p.state v) Automaton.begin :=
    .inr ⟨_, rfl, kind_ne_skipped_of_readAt read, .inl going⟩
  obtain ⟨onward, top, here⟩ := push_onward sound ready (x := some (.leaf t)) ⟨⟨read, rfl⟩, part⟩ follows
  unfold accept
  generalize p.push v (some (.leaf t)) Automaton.begin = p' at *
  have bottom : ((p'.graph.get? 0).map (·.place)).getD (p'.place v) = .start text := by
    obtain ⟨node, found, place⟩ := onward.sound.bottom
    simp [found, place]
  dsimp only
  rw [bottom]
  have whole : ∀ t ∈ ((p'.graph.popAll (p'.head v).node).flatMap (·.2)).filterMap (wholeTree? (.start text)),
      t.Whole text := by
    intro t member
    obtain ⟨trees, listed, made⟩ := List.mem_filterMap.mp member
    obtain ⟨bared, popped, listed⟩ := List.mem_flatMap.mp listed
    have going : p'.graph.state (p'.head v).node ≠ Automaton.lost := by
      rw [← state_eq, here]
      decide
    obtain ⟨⟨b, there, spans⟩, kept⟩ := (Graph.popAll_all onward.sound.graph top.2.1 going bared popped).2 trees listed
    exact wholeTree?_whole (onward.sound.graph.within _ _ there) spans (kept.imp_right And.right) made
  generalize ((p'.graph.popAll (p'.head v).node).flatMap (·.2)).filterMap (wholeTree? (.start text)) = found at *
  have halted (best : Option Tree) (n : Nat) (sound : ∀ t, best = some t → t.Whole text) :
      Onward text (· ≠ v) p (Parser.halt { p' with finished := best, finishes := n } v) := by
    have finishing : Onward text (fun _ => True) p' { p' with finished := best, finishes := n } :=
      ⟨⟨onward.sound.graph, onward.sound.bottom, onward.sound.heads, sound⟩, .refl _, fun _ _ _ => id⟩
    exact onward.trans ((finishing.mono fun _ _ => trivial).trans (halt_onward finishing.sound v))
  refine halted _ _ ?_
  refine List.foldlRecOn (motive := fun best : Option Tree => ∀ t, best = some t → t.Whole text) found _
    onward.sound.finished ?_
  intro best sound t member t' chosen
  split at chosen
  · obtain rfl := Option.some.inj chosen
    exact whole t member
  · split at chosen
    · obtain rfl := Option.some.inj chosen
      exact whole t member
    · exact sound t' chosen

end Parser

end CodeAudit.Syntax
