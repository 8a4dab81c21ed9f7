import CodeAudit.Proofs.Syntax.Parser
import CodeAudit.Syntax.Repair

/-! Repair keeps the stacks sound as well: what it puts in is empty, and what it skips lies side by side. -/
namespace CodeAudit.Syntax

theorem Tree.SpanAll.of_error {t : Tree} {b c : Cursor} (spans : t.Spans b c) (part : t.IsPart)
    (error : t.kind = .error) : Tree.SpanAll t.children b c := by
  cases t with
  | leaf t => exact absurd error (part t rfl)
  | missing k p =>
    obtain ⟨missed, -⟩ := spans
    obtain rfl : k = .error := error
    exact absurd missed.token (by decide)
  | node p cs d =>
    exact absurd error (Grammar.sound_kinds spans.1).1.1
  | wreck whole extra cs d => exact spans.2.2

theorem Tree.isPart_skip (whole extra : Bool) (c : Cursor) (cs : List Tree) : (Tree.skip whole extra c cs).IsPart := by
  rintro leaf ⟨⟩

namespace Parser

variable {text : List Char} {p p' : Parser} {n u v w : Nat} {b c : Cursor} {k : Kind} {t : Token}

/-- The reductions that come into question are reductions of the grammar. -/
theorem mem_reductions_of_survey {state : Nat} {tokens : List Kind} {r : Reduction}
    (member : r ∈ (survey state tokens).2) : r ∈ Grammar.reductions := by
  suffices all : ∀ r ∈ (survey state tokens).2, r ∈ Grammar.reductions from all r member
  unfold survey
  refine List.foldlRecOn (motive := fun found : Bool × List Reduction => ∀ r ∈ found.2, r ∈ Grammar.reductions)
    _ _ (by simp) ?_
  rintro ⟨shifts, rs⟩ known action member
  obtain ⟨k, -, proposed⟩ := List.mem_flatMap.mp member
  have proposed := Automaton.proposed_of_mem_actions proposed
  cases action with
  | reduce r =>
    cases proposed with
    | reduce _ here =>
      unfold addReduction
      dsimp only
      split
      · exact known
      · intro s member
        rcases List.mem_append.mp member with old | new
        · exact known s old
        · obtain rfl := List.mem_singleton.mp new
          exact here
  | shift | shiftExtra | accept | recover => exact known

/-- There are none for a parser that has lost its way. -/
theorem going_of_survey {state : Nat} {tokens : List Kind} {r : Reduction} (member : r ∈ (survey state tokens).2) :
    state ≠ Automaton.lost := by
  suffices all : ∀ r ∈ (survey state tokens).2, state ≠ Automaton.lost from all r member
  unfold survey
  refine List.foldlRecOn (motive := fun found : Bool × List Reduction => ∀ r ∈ found.2, state ≠ Automaton.lost)
    _ _ (by simp) ?_
  rintro ⟨shifts, rs⟩ known action member
  obtain ⟨k, -, proposed⟩ := List.mem_flatMap.mp member
  cases action with
  | reduce r => exact fun _ _ => Automaton.going_of_moves proposed rfl
  | shift | shiftExtra | accept | recover => exact known

/-- Several reductions on a head give new heads in the same place. -/
theorem reduceEach_onward (sound : p.Sound text) (ready : p.Ready v c) {rs : List Reduction}
    (known : ∀ r ∈ rs, r ∈ Grammar.reductions ∧ p.state v ≠ Automaton.lost) :
    let out := rs.foldl (fun (p, _) r => p.reduce v r) (p, (none : Option Nat))
    Onward text (· < p.heads.length) p out.1 ∧ out.1.ReadyFrom p.heads.length c ∧
      ∀ w, out.2 = some w → p.heads.length ≤ w ∧ w < out.1.heads.length := by
  refine List.foldlRecOn (motive := fun out : Parser × Option Nat =>
    (Onward text (· < p.heads.length) p out.1 ∧ out.1.ReadyFrom p.heads.length c ∧
      ∀ w, out.2 = some w → p.heads.length ≤ w ∧ w < out.1.heads.length) ∧ out.1.state v = p.state v) rs _
    ⟨⟨sound.refl, p.readyFrom_length c, by simp⟩, rfl⟩ ?_ |>.1
  rintro ⟨p', last⟩ ⟨⟨onward, beyond, -⟩, state⟩ r member
  obtain ⟨known, going⟩ := known r member
  obtain ⟨onward', beyond', kept, named⟩ :=
    reduce_onward onward.sound (onward.keeps v ready.1 c ready) (by rwa [state]) ready.1 beyond known
  exact ⟨⟨onward.trans onward', beyond', named⟩, kept.trans state⟩

/-- A head and all those from a number on stand at one place, and only they are moved. Unless heads may be dropped,
there are as many as that number. -/
structure Gathered (text : List Char) (start first : Nat) (drops : Bool) (c : Cursor) (p : Parser) : Prop where
  sound : p.Sound text
  less : start < first
  next : drops = true → first = start + 1
  enough : drops = false → first ≤ p.heads.length
  ready : ∀ u, u = start ∨ first ≤ u → u < p.heads.length → p.Ready u c

/-- A move among heads that are gathered at a place. -/
structure Among (text : List Char) (start first : Nat) (drops : Bool) (c : Cursor) (p p' : Parser) : Prop where
  gathered : Gathered text start first drops c p'
  onward : Onward text (fun u => u < first ∧ u ≠ start) p p'
  length : min start p.heads.length ≤ p'.heads.length

section Among

variable {start first : Nat} {drops : Bool}

theorem Gathered.refl (gathered : Gathered text start first drops c p) : Among text start first drops c p p :=
  ⟨gathered, gathered.sound.refl, by omega⟩

theorem Among.trans {p'' : Parser} (one : Among text start first drops c p p')
    (two : Among text start first drops c p' p'') : Among text start first drops c p p'' := by
  refine ⟨two.gathered, one.onward.trans two.onward, ?_⟩
  have := one.length
  have := two.length
  omega

theorem Gathered.merge (gathered : Gathered text start first drops c p) (mine : v = start ∨ first ≤ v)
    (within : v < p.heads.length) (merged : p.mergeFirst? v ((List.range v).filter (first ≤ ·)) = some p') :
    Among text start first drops c p p' := by
  obtain ⟨sound, less, next, enough, ready⟩ := gathered
  -- Only heads from `first` on are merged, and into others from there on.
  have later : first ≤ v := by
    rcases mine with rfl | later
    · have none : (List.range v).filter (first ≤ ·) = [] := by
        rw [List.filter_eq_nil_iff]
        intro u member
        have := List.mem_range.mp member
        simp
        omega
      rw [none] at merged
      contradiction
    · exact later
  have dropped := mergeFirst?_dropped sound merged
  have length := dropped.length within
  refine ⟨⟨dropped.onward.sound, less, next, fun _ => by omega, fun u mine inside => ?_⟩,
    dropped.onward.mono fun u mine => by omega, by omega⟩
  rcases Nat.lt_or_ge u v with before | behind
  · exact dropped.onward.keeps u before c (ready u mine (by omega))
  · exact dropped.later u behind c (ready (u + 1) (by omega) (by omega))

theorem Gathered.reduce (gathered : Gathered text start first drops c p) (mine : v = start ∨ first ≤ v)
    (within : v < p.heads.length) {rs : List Reduction}
    (known : ∀ r ∈ rs, r ∈ Grammar.reductions ∧ p.state v ≠ Automaton.lost) :
    let out := rs.foldl (fun (p, _) r => p.reduce v r) (p, (none : Option Nat))
    Among text start first drops c p out.1 ∧ p.heads.length ≤ out.1.heads.length ∧
      ∀ w, out.2 = some w → p.heads.length ≤ w ∧ w < out.1.heads.length := by
  obtain ⟨sound, less, next, enough, ready⟩ := gathered
  obtain ⟨onward, ⟨length, beyond⟩, named⟩ := reduceEach_onward sound (ready v mine within) known
  refine ⟨⟨⟨onward.sound, less, next, fun keeps => Nat.le_trans (enough keeps) length, fun u mine inside => ?_⟩,
    onward.mono fun u mine => ?_, by omega⟩, length, named⟩
  · rcases Nat.lt_or_ge u p.heads.length with old | new
    · exact onward.keeps u old c (ready u mine old)
    · exact beyond u new inside
  · cases drops with
    | false => have := enough rfl; omega
    | true => have := next rfl; omega

theorem Gathered.replace (gathered : Gathered text start first drops c p) (mine : v = start ∨ first ≤ v) (less : v < w)
    (inside : w < p.heads.length) (enough : first ≤ w) : Among text start first drops c p (p.replace w v) := by
  obtain ⟨here, onward, later, length⟩ := replace_onward gathered.sound (gathered.ready w (.inr enough) inside) less
  have least := gathered.less
  refine ⟨⟨onward.sound, gathered.less, gathered.next, fun _ => by omega, fun u mine inside => ?_⟩,
    onward.mono fun u other => by omega, by omega⟩
  by_cases same : u = v
  · rw [same]
    exact here
  rcases Nat.lt_or_ge u w with before | behind
  · exact onward.keeps u ⟨same, before⟩ c (gathered.ready u mine (by omega))
  · exact later u behind c (gathered.ready (u + 1) (by omega) (by omega))

theorem Gathered.remove (gathered : Gathered text start first true c p) (mine : v = start ∨ first ≤ v)
    (within : v < p.heads.length) : Among text start first true c p (p.remove v) := by
  obtain ⟨sound, less, next, -, ready⟩ := gathered
  have next' := next rfl
  have dropped := remove_dropped sound v
  have length := dropped.length within
  refine ⟨⟨dropped.onward.sound, less, next, nofun, fun u mine inside => ?_⟩,
    dropped.onward.mono fun u mine => by omega, by omega⟩
  rcases Nat.lt_or_ge u v with before | behind
  · exact dropped.onward.keeps u before c (ready u mine (by omega))
  · exact dropped.later u behind c (ready (u + 1) (by omega) (by omega))

/-- Performing all reductions leaves the heads in their place. With a token in view some are dropped. -/
theorem reduceAll_among {token : Option Kind} (fuel round : Nat) (shifts : Bool)
    (gathered : Gathered text start first token.isSome c p) (mine : v = start ∨ first ≤ v) :
    Among text start first token.isSome c p (reduceAll start token first fuel round v shifts p).1 := by
  induction fuel generalizing p round v shifts with
  | zero => exact gathered.refl
  | succ fuel ih =>
    unfold reduceAll
    dsimp only
    split
    · exact gathered.refl
    next within =>
    have within : v < p.heads.length := Nat.lt_of_not_le within
    split
    · next p' merged =>
      have merging := gathered.merge mine within merged
      exact merging.trans (ih _ _ merging.gathered mine)
    generalize found : survey (p.state v) ((token.map ([·])).getD Kind.tokens) = surveyed
    obtain ⟨canShift, rs⟩ := surveyed
    have known : ∀ r ∈ rs, r ∈ Grammar.reductions ∧ p.state v ≠ Automaton.lost := fun r member =>
      have surveyed := by rw [found]; exact member
      ⟨mem_reductions_of_survey surveyed, going_of_survey surveyed⟩
    obtain ⟨reducing, length, named⟩ := gathered.reduce mine within known
    generalize rs.foldl (fun (p, _) r => p.reduce v r) (p, none) = reduced at reducing length named ⊢
    obtain ⟨p', reduced⟩ := reduced
    dsimp only at reducing length named ⊢
    have enough : first ≤ p.heads.length := by
      cases token with
      | none => exact gathered.enough rfl
      | some k => have := gathered.next rfl; omega
    have onward : (if v = start then p.heads.length else v + 1) = start ∨
        first ≤ (if v = start then p.heads.length else v + 1) := by
      split <;> omega
    -- Without a token in view no head is dropped.
    have dropping : Among text start first token.isSome c p (if token.isSome then p'.remove v else p') := by
      cases token with
      | none => exact reducing
      | some k => exact reducing.trans (reducing.gathered.remove mine (by omega))
    split
    · exact reducing.trans (ih _ _ reducing.gathered onward)
    split
    · next w =>
      obtain ⟨new, inside⟩ := named w rfl
      split
      · have replacing := reducing.gathered.replace mine (by omega) inside (by omega)
        exact reducing.trans (replacing.trans (ih _ _ replacing.gathered mine))
      · exact dropping.trans (ih _ _ dropping.gathered onward)
    · exact dropping.trans (ih _ _ dropping.gathered onward)

end Among

/-- A mark of a lost way leaves a head where it is. -/
theorem lose_onward (sound : p.Sound text) (ready : p.Ready v c) :
    Onward text (fun _ => True) p (p.push v none Automaton.lost) := by
  obtain ⟨onward, ready', -⟩ := push_onward sound ready (x := none) rfl (.inl rfl)
  refine ⟨onward.sound, onward.graph, fun u _ d there => ?_⟩
  by_cases same : u = v
  · subst same
    rw [there.2.1.unique ready.2.1]
    exact ready'
  · exact onward.keeps u same d there

/-- A move that leaves all heads where they are and may add some. -/
structure Grows (text : List Char) (p p' : Parser) : Prop where
  onward : Onward text (· < p.heads.length) p p'
  length : p.heads.length ≤ p'.heads.length

theorem Sound.grows (sound : p.Sound text) : Grows text p p :=
  ⟨sound.refl, Nat.le_refl _⟩

theorem Grows.trans {p'' : Parser} (one : Grows text p p') (two : Grows text p' p'') : Grows text p p'' :=
  ⟨one.onward.trans (two.onward.mono fun _ less => Nat.lt_of_lt_of_le less one.length),
    Nat.le_trans one.length two.length⟩

theorem Grows.ready (grows : Grows text p p') (ready : p.Ready v c) : p'.Ready v c :=
  grows.onward.keeps v ready.1 c ready

/-- A missing token takes up no text: the heads that come of it are gathered where the head is. -/
theorem insertMissing_grows (fuel : Nat) (k : Kind) {missing : List Kind} (tokens : ∀ m ∈ missing, m ∈ Kind.tokens)
    (sound : p.Sound text) (ready : p.Ready v c) : Grows text p (insertMissing fuel v k missing p).2 := by
  induction missing generalizing p with
  | nil => exact sound.grows
  | cons m rest ih =>
    obtain ⟨token, tokens⟩ := List.forall_mem_cons.mp tokens
    unfold insertMissing
    split
    · exact ih tokens sound ready
    next target behind =>
    refine iteInduction (motive := fun out : Bool × Parser => Grows text p out.2) (fun _ => ih tokens sound ready)
      fun reduces => ?_
    have missed : Automaton.CanMiss m := ⟨token, p.state v, target, behind, k, by
      split at reduces
      · next r first => exact ⟨r, List.mem_of_head? first⟩
      · simp at reduces⟩
    have going : p.state v ≠ Automaton.lost := Automaton.going_of_behind? behind (by
      rintro rfl
      simp at reduces)
    dsimp only
    have place : p.place v = c := ready.place
    have crosses : Crosses (some (.missing m (p.place v))) c c := ⟨⟨missed, place, rfl⟩, by rintro leaf ⟨⟩⟩
    obtain ⟨copied, top⟩ := append_onward sound (h := { p.head v with resorts := none }) ready.2.1 ready.2.2
    have here : ({ p with heads := p.heads ++ [{ p.head v with resorts := none }] } : Parser).state p.heads.length =
        p.state v := by
      rw [state_eq, state_eq, head_append, if_pos rfl]
    have follows : Follows (some (.missing m (p.place v)))
        (({ p with heads := p.heads ++ [{ p.head v with resorts := none }] } : Parser).state p.heads.length) target := by
      rw [here]
      refine .inr ⟨_, rfl, fun same => ?_, .inl going⟩
      obtain rfl : m = .skipped := same
      exact absurd token (by decide)
    obtain ⟨filled, top, -⟩ := push_onward copied.sound top crosses follows
    have length := push_length ({ p with heads := p.heads ++ [{ p.head v with resorts := none }] } : Parser)
      p.heads.length (some (.missing m (p.place v))) target
    rw [List.length_append, List.length_singleton] at length
    have onward := (copied.mono fun _ _ => trivial).trans filled
    generalize Parser.push _ p.heads.length (some (.missing m (p.place v))) target = p' at *
    have gathered : Gathered text p.heads.length (p.heads.length + 1) (some k).isSome c p' :=
      ⟨filled.sound, Nat.lt_succ_self _, fun _ => rfl, nofun, fun u mine inside => by
        obtain rfl : u = p.heads.length := by omega
        exact top⟩
    have reducing := reduceAll_among fuel 0 false gathered (.inl rfl)
    generalize reduceAll p.heads.length (some k) (p.heads.length + 1) fuel 0 p.heads.length false p' = reduced at *
    obtain ⟨p'', shifts⟩ := reduced
    have length' := reducing.length
    have grows : Grows text p p'' :=
      ⟨(onward.mono fun u less => Nat.ne_of_lt less).trans (reducing.onward.mono fun u less => by omega),
        by dsimp only at length'; omega⟩
    cases shifts with
    | true => exact grows
    | false => exact grows.trans (ih tokens grows.onward.sound (grows.ready ready))

theorem loseHeads_grows (fuel : Nat) (k : Kind) {vs : List Nat} (helped : Bool) (sound : p.Sound text)
    (ready : ∀ v ∈ vs, p.Ready v c) : Grows text p (loseHeads fuel k vs helped p) := by
  induction vs generalizing p helped with
  | nil => exact sound.grows
  | cons v rest ih =>
    obtain ⟨here, others⟩ := List.forall_mem_cons.mp ready
    unfold loseHeads
    have choice : Grows text p (if helped then (true, p) else insertMissing fuel v k Kind.tokens p).2 := by
      cases helped with
      | true => exact sound.grows
      | false => exact insertMissing_grows fuel k (fun m => id) sound here
    generalize (if helped then (true, p) else insertMissing fuel v k Kind.tokens p) = chosen at *
    obtain ⟨helps, p'⟩ := chosen
    have lost : Grows text p' (p'.push v none Automaton.lost) :=
      ⟨(lose_onward choice.onward.sound (choice.ready here)).mono fun _ _ => trivial,
        Nat.le_of_eq (push_length ..).symm⟩
    have first := choice.trans lost
    exact first.trans (ih helps first.onward.sound fun u member => first.ready (others u member))

/-- What was popped together with a wreck below it, whose children then stand in its place. -/
theorem bared_behind_error {g : Graph} {l : Link} {node : Nat} {trees : List Tree} {there : StackNode}
    (sound : g.Sound text) (bared : g.Bared c node trees) (found : g.get? node = some there)
    (going : g.state node ≠ Automaton.lost) (member : l ∈ there.links) {t : Tree} (tree : l.tree = some t)
    (error : t.kind = .error) (extra : t.isExtra) :
    g.Bared c l.below (t.children ++ trees) ∧ g.state l.below ≠ Automaton.lost := by
  obtain ⟨b, at_, spans⟩ := bared
  obtain rfl : there.place = b := Graph.At.unique ⟨there, found, rfl⟩ at_
  obtain ⟨a, below, crosses, follows⟩ := sound.links node there found l member
  rw [Graph.state_eq found] at going
  rw [tree] at crosses follows
  refine ⟨⟨a, below, Tree.spanAll_append.mpr ⟨_, .of_error crosses.1 crosses.2 error, spans⟩⟩, ?_⟩
  obtain ⟨u, same, -, onward⟩ := follows.resolve_left going
  obtain rfl := Option.some.inj same
  refine onward.resolve_right fun ends => ?_
  rw [ends.isExtra] at extra
  contradiction

/-- What was popped becomes a wreck of a new head, with the extras at its end behind it. -/
theorem wreck_grows (sound : p.Sound text) {node : Nat} {trees : List Tree} (bared : p.graph.Bared c node trees)
    (going : p.graph.state node ≠ Automaton.lost) (goal : Nat) :
    let place := ((p.graph.get? node).map (·.place)).getD (p.place v)
    let parts := Tree.splitExtras trees
    let p' := p.fork v node
    let p' := if parts.1.isEmpty then p'
      else p'.push p.heads.length (some (Tree.skip true true place parts.1)) goal
    Grows text p (p'.pushAll p.heads.length parts.2 goal) := by
  obtain ⟨b, there, spans⟩ := bared
  have place : ((p.graph.get? node).map (·.place)).getD (p.place v) = b := by
    obtain ⟨there, found, rfl⟩ := there
    simp [found]
  have extra : ∀ e ∈ (Tree.splitExtras trees).2, e.isExtra := fun e => Tree.isExtra_of_mem_splitExtras
  rw [← Tree.splitExtras_append trees] at spans
  dsimp only
  rw [place]
  generalize Tree.splitExtras trees = parts at *
  obtain ⟨skipped, extras⟩ := parts
  obtain ⟨m, front, back⟩ := Tree.spanAll_append.mp spans
  obtain ⟨forked, top⟩ := fork_onward sound there v
  rw [← state_fork p v] at going
  obtain ⟨p', onward, top', here, length, same⟩ : ∃ p', Onward text (· ≠ p.heads.length) p p' ∧
      p'.Ready p.heads.length m ∧ (goal = Automaton.lost ∨ p'.state p.heads.length ≠ Automaton.lost) ∧
      p'.heads.length = p.heads.length + 1 ∧
      (if skipped.isEmpty then p.fork v node
        else (p.fork v node).push p.heads.length (some (Tree.skip true true b skipped)) goal) = p' := by
    cases empty : skipped.isEmpty with
    | true =>
      obtain rfl := List.isEmpty_iff.mp empty
      obtain rfl : m = b := front
      exact ⟨_, forked.mono fun _ _ => trivial, top, .inr going, fork_length .., rfl⟩
    | false =>
      have crosses : Crosses (some (Tree.skip true true b skipped)) b m :=
        ⟨Tree.skip_spans (fun _ => rfl) front, Tree.isPart_skip true true b skipped⟩
      have follows : Follows (some (Tree.skip true true b skipped)) ((p.fork v node).state p.heads.length) goal :=
        .inr ⟨_, rfl, nofun, .inl going⟩
      obtain ⟨pushed, top, here⟩ := push_onward forked.sound top crosses follows
      exact ⟨_, (forked.mono fun _ _ => trivial).trans pushed, top, by rw [here]; exact Decidable.em _,
        (push_length ..).trans (fork_length ..), rfl⟩
  rw [same]
  obtain ⟨all, -, length'⟩ := pushAll_onward onward.sound top' back extra here
  exact ⟨(onward.trans all).mono fun u less => Nat.ne_of_lt less, by omega⟩

/-- Going back gives new heads: what was skipped lies between the state gone back to and where the head was. -/
theorem goBack?_grows (sound : p.Sound text) {depth goal : Nat} (going : goal ≠ Automaton.lost)
    (gone : p.goBack? v depth goal = some p') : Grows text p p' := by
  obtain ⟨c, top, -⟩ := sound.head v
  have popped := Graph.pop_all sound.graph top depth
  unfold goBack? at gone
  dsimp only at gone
  split at gone
  · contradiction
  obtain rfl := Option.some.inj gone
  clear gone
  refine List.foldlRecOn (motive := fun p' => Grows text p p') _ _ sound.grows ?_
  rintro p' grows ⟨node, lists⟩ member
  obtain ⟨member, state⟩ := List.mem_filter.mp member
  obtain ⟨some, popped⟩ := popped (node, lists) member
  obtain ⟨trees, others, rfl⟩ := List.exists_cons_of_ne_nil some
  obtain ⟨⟨b, there, spans⟩, -⟩ := popped trees (List.mem_cons_self ..)
  have going : p'.graph.state node ≠ Automaton.lost := by
    rw [grows.onward.graph.state there]
    obtain ⟨old, found, -⟩ := there
    have state : old.state = goal := by
      have found : p.graph.get? node = .some old := found
      simpa [found] using state
    rwa [Graph.state_eq found, state]
  have there : p'.graph.At node b := grows.onward.graph.at there
  have bared : p'.graph.Bared c node trees := ⟨b, there, spans⟩
  obtain ⟨here, found, -⟩ := there
  refine grows.trans ?_
  dsimp only [List.headD_cons]
  rw [found]
  split
  · next below t error =>
    have member := List.mem_of_find?_eq_some error
    have error : t.kind = .error ∧ t.isExtra := by simpa using List.find?_some error
    obtain ⟨bared, going⟩ :=
      bared_behind_error grows.onward.sound.graph bared found going member rfl error.1 error.2
    exact wreck_grows grows.onward.sound bared going goal
  · exact wreck_grows grows.onward.sound bared going goal

theorem findWayBack_onward (k : Kind) {resorts : List Resort} (sound : p.Sound text) (ready : p.Ready v c) :
    Onward text (· = v) p (findWayBack v k resorts p).2 := by
  induction resorts generalizing p with
  | nil => exact sound.refl
  | cons r rest ih =>
    unfold findWayBack
    refine iteInduction (motive := fun out : Bool × Parser => Onward text (· = v) p out.2)
      (fun _ => ih sound ready) fun other => ?_
    simp only [Bool.or_eq_true, decide_eq_true_eq, not_or] at other
    dsimp only
    generalize p.errorCost v + _ + _ + _ = cost
    have compared := betterExists_onward sound v cost
    generalize p.betterExists v cost = better at *
    obtain ⟨dear, p'⟩ := better
    have compared : Onward text (· = v) p p' := compared.mono fun _ _ => trivial
    have ready' := compared.keeps v rfl c ready
    dsimp only
    split
    · exact compared
    split
    · exact compared.trans (ih compared.sound ready')
    split
    · next gone =>
      refine compared.trans ((goBack?_grows compared.sound other.1.1 gone).onward.mono fun u same => ?_)
      exact same ▸ ready'.1
    · exact compared.trans (ih compared.sound ready')

/-- A skipped token is put into a wreck with what was skipped before. -/
theorem skipToken_sound (sound : p.Sound text) (ready : p.Ready v c) (read : t.ReadAt c) :
    (p.skipToken v t).Sound text := by
  have place := ready.place
  have skipped :
      Tree.Spans (Tree.skip false false c [.leaf { t with extra := t.extra || t.kind.isExtra }]) c t.stop := by
    refine Tree.skip_spans nofun (Tree.spanAll_singleton.mpr ⟨.extra _ read fun extra => ?_, rfl⟩)
    simpa [or_comm] using extra
  have shown (b : Cursor) (children : List Tree) : (Tree.skip false false b children).IsPart :=
    Tree.isPart_skip false false b children
  have part := shown c [.leaf { t with extra := t.extra || t.kind.isExtra }]
  unfold skipToken
  dsimp only
  rw [place]
  generalize Tree.skip false false c [.leaf { t with extra := t.extra || t.kind.isExtra }] = tree at *
  have alone : (p.push v (some tree) Automaton.lost).Sound text :=
    (push_onward sound ready (x := some tree) ⟨skipped, part⟩ (.inl rfl)).1.sound
  generalize grown : (if 0 < p.progress v then _ else p.push v (some tree) Automaton.lost) = q
  have sound' : q.Sound text := by
    rw [← grown]
    split
    · split
      · next node trees _ _ popped =>
        have all := Graph.pop_all sound.graph ready.2.1 1
        rw [popped] at all
        obtain ⟨⟨b, there, spans⟩, -⟩ := (all _ (List.mem_cons_self ..)).2 trees (List.mem_cons_self ..)
        have place : ((p.graph.get? node).map (·.place)).getD c = b := by
          obtain ⟨there, found, rfl⟩ := there
          simp [found]
        rw [place]
        have set := setHead_onward (v := v) sound (headSound_of_at (h := { p.head v with node, status := .active })
          there rfl)
        have ready' := setHead_ready (h := { p.head v with node, status := .active }) ready.1 there rfl
        have crosses : Crosses (some (Tree.skip false false b (trees ++ [tree]))) b t.stop :=
          ⟨Tree.skip_spans nofun (Tree.spanAll_append.mpr ⟨c, spans, Tree.spanAll_singleton.mpr skipped⟩),
            shown b (trees ++ [tree])⟩
        exact (push_onward set.sound ready' crosses (.inl rfl)).1.sound
      · exact alone
    · exact alone
  split
  · exact sound'
  · refine (setHead_same sound' ?_ ?_).sound <;> rfl

theorem recover_sound (sound : p.Sound text) (ready : p.Ready v c) (read : t.ReadAt c) :
    (p.recover v t).Sound text := by
  unfold recover
  have clamped := clamp_onward sound v
  generalize p.clamp v = p' at *
  dsimp only
  generalize p'.errorCost v + _ + _ + _ = dear
  have ready := clamped.keeps v trivial c ready
  have back : Onward text (· = v) p' (if t.kind = .error then (false, p')
      else findWayBack v t.kind ((p'.head v).resorts.getD []) p').2 := by
    split
    · exact clamped.sound.refl
    · exact findWayBack_onward t.kind clamped.sound ready
  generalize (if t.kind = .error then (false, p')
      else findWayBack v t.kind ((p'.head v).resorts.getD []) p') = tried at *
  obtain ⟨helped, p''⟩ := tried
  have sound := back.sound
  have ready := back.keeps v rfl c ready
  dsimp only at sound ready ⊢
  split
  · exact (halt_onward sound v).sound
  split
  · next ended =>
    have crosses : Crosses (some (Tree.skip true false (p''.place v) [])) c c := by
      rw [ready.place]
      exact ⟨Tree.skip_spans nofun (Tree.spanAll_nil c), Tree.isPart_skip true false c []⟩
    have follows : Follows (some (Tree.skip true false (p''.place v) [])) (p''.state v) Automaton.begin :=
      .inr ⟨_, rfl, nofun, .inr ⟨_, rfl⟩⟩
    obtain ⟨wrecked, ready, here⟩ := push_onward sound ready crosses follows
    exact (accept_onward wrecked.sound ready (by rw [here]; decide) read ended).sound
  have compared := betterExists_onward sound v dear
  generalize p''.betterExists v dear = better at *
  obtain ⟨pointless, q⟩ := better
  have ready := compared.keeps v trivial c ready
  dsimp only at compared ready ⊢
  split
  · exact (halt_onward compared.sound v).sound
  · exact skipToken_sound compared.sound ready read

/-- Repair begins with a head and all that reductions make of it, gathered in one place. -/
theorem handleError_sound (fuel : Nat) (sound : p.Sound text) (ready : p.Ready v c) (read : t.ReadAt c) :
    (handleError fuel p v t).Sound text := by
  unfold handleError
  dsimp only
  have gathered : Gathered text v p.heads.length (none : Option Kind).isSome c p :=
    ⟨sound, ready.1, nofun, fun _ => Nat.le_refl _, fun u mine inside => by
      obtain rfl : u = v := by omega
      exact ready⟩
  have reducing := reduceAll_among fuel 0 false gathered (.inl rfl)
  have enough := reducing.gathered.enough rfl
  generalize before : p.heads.length = count at *
  generalize reduceAll v none count fuel 0 v false p = reduced at *
  obtain ⟨p', shifts⟩ := reduced
  dsimp only at reducing enough ⊢
  have less := gathered.less
  have all : ∀ u ∈ v :: (List.range p'.heads.length).filter (count ≤ ·), p'.Ready u c := by
    intro u member
    rcases List.mem_cons.mp member with rfl | member
    · exact reducing.gathered.ready u (.inl rfl) (by omega)
    · obtain ⟨within, more⟩ := List.mem_filter.mp member
      exact reducing.gathered.ready u (.inr (by simpa using more)) (List.mem_range.mp within)
  have lost := loseHeads_grows fuel t.kind false reducing.gathered.sound all
  have ready := lost.ready (all v (List.mem_cons_self ..))
  generalize loseHeads fuel t.kind _ false p' = p'' at *
  generalize (List.range p'.heads.length).filter (count ≤ ·) = more at *
  have merged : Onward text (· < count) p'' (more.foldl (fun p _ => (p.merge? v count).getD p) p'') := by
    refine List.foldlRecOn (motive := fun q => Onward text (· < count) p'' q) _ _ lost.onward.sound.refl ?_
    intro q onward _ _
    cases found : q.merge? v count with
    | none => exact onward
    | some q' => exact onward.trans (merge?_dropped onward.sound found).onward
  generalize more.foldl (fun p _ => (p.merge? v count).getD p) p'' = q at *
  have named := setHead_same (v := v) merged.sound
    (h := { q.head v with resorts := some (q.graph.resorts (q.head v).node) }) rfl rfl
  exact recover_sound named.sound (named.keeps v trivial c (merged.keeps v less c ready)) read

end Parser

end CodeAudit.Syntax
