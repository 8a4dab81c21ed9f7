import CodeAudit.Syntax.Parser

/-!
Going on after an error. A head whose next token fits nowhere finishes what it can, tries a missing token, and is
then lost: it skips tokens until one fits a state further down its stack. Every way out has its price.
-/
namespace CodeAudit.Syntax.Parser

/-- Keeps the first of several reductions with the same result. -/
def addReduction (rs : List Reduction) (r : Reduction) : List Reduction :=
  if r.length = 0 || rs.any (fun s => s.kind = r.kind && s.length = r.length) then rs
  else rs ++ [r]

/-- Whether one of the tokens can be shifted in a state, and the reductions possible before one of them. -/
def survey (state : Nat) (tokens : List Kind) : Bool × List Reduction :=
  (tokens.flatMap (Automaton.actions state)).foldl (fun (shifts, rs) action =>
    match action with
    | .shift _ onward => (shifts || onward, rs)
    | .recover => (true, rs)
    | .reduce r => (shifts, addReduction rs r)
    | _ => (shifts, rs)) (false, [])

/-- Performs all reductions that may come before some token, or before the given one. Heads that cannot shift the
given token in the end are dropped. The answer tells whether some head can. `first` is the number of heads there
were, `round` counts the rounds. -/
def reduceAll (begin : Nat) (token : Option Kind) (first : Nat) :
    (fuel : Nat) → (round v : Nat) → (shifts : Bool) → Parser → Parser × Bool
  | 0, _, _, shifts, p => (p, shifts)
  | fuel + 1, round, v, shifts, p =>
    let count := p.heads.length
    if count ≤ v then (p, shifts)
    else
      match p.mergeFirst? v ((List.range v).filter (first ≤ ·)) with
      | some p => reduceAll begin token first fuel (round + 1) v shifts p
      | none =>
        let (canShift, rs) := survey (p.state v) ((token.map ([·])).getD Kind.tokens)
        let (p, reduced) := rs.foldl (fun (p, _) r => p.reduce v r) (p, none)
        let next := if v = begin then count else v + 1
        if canShift then reduceAll begin token first fuel (round + 1) next true p
        else
          match reduced with
          | some w =>
            if round < maxHeads then
              reduceAll begin token first fuel (round + 1) v shifts (p.replace w v)
            else
              let p := if token.isSome then p.remove v else p
              reduceAll begin token first fuel (round + 1) next shifts p
          | none =>
            let p := if token.isSome then p.remove v else p
            reduceAll begin token first fuel (round + 1) next shifts p

/-- Tries the tokens in order as a missing token of head `v` before a token of kind `k`. The answer tells whether
one of them helps. -/
def insertMissing (fuel : Nat) (v : Nat) (k : Kind) : List Kind → Parser → Bool × Parser
  | [], p => (false, p)
  | m :: rest, p =>
    match Automaton.behind? (p.state v) m with
    | none => insertMissing fuel v k rest p
    | some target =>
      let reduces :=
        match (Automaton.actions target k).head? with
        | some (.reduce _) => true
        | _ => false
      if target = p.state v || !reduces then insertMissing fuel v k rest p
      else
        let n := p.heads.length
        let copy := { p with heads := p.heads ++ [{ p.head v with resorts := none }] }
        let filled := copy.push n (some (.missing m (p.place v))) target
        let (filled, shifts) := reduceAll n (some k) (n + 1) fuel 0 n false filled
        if shifts then (true, filled) else insertMissing fuel v k rest filled

/-- Marks the given heads as lost, trying a missing token on each until one helps. -/
def loseHeads (fuel : Nat) (k : Kind) : List Nat → (helped : Bool) → Parser → Parser
  | [], _, p => p
  | v :: rest, helped, p =>
    let (helps, p) := if helped then (true, p) else insertMissing fuel v k Kind.tokens p
    loseHeads fuel k rest helps (p.push v none Automaton.lost)

/-- Goes back to a state `depth` trees down: what lay above it becomes a wreck, which takes in an earlier one below it.
The wreck that ends a text is never below another one. -/
def goBack? (p : Parser) (v depth goal : Nat) : Option Parser :=
  let popped := (p.graph.pop (p.head v).node depth).filter fun (node, _) =>
    (p.graph.get? node).any (·.state = goal)
  if popped.isEmpty then none
  else
    some <| popped.foldl (fun p (node, lists) =>
      let trees := lists.headD []
      let n := p.heads.length
      let links := ((p.graph.get? node).map (·.links)).getD []
      let isError (l : Link) : Bool := l.tree.any fun t => t.kind == .error && t.isExtra
      let (node, trees) :=
        match links.find? isError with
        | some ⟨below, some t⟩ => (below, t.children ++ trees)
        | _ => (node, trees)
      let c := ((p.graph.get? node).map (·.place)).getD (p.place v)
      let (skipped, extras) := Tree.splitExtras trees
      let p := p.fork v node
      let p := if skipped.isEmpty then p else p.push n (some (Tree.skip true true c skipped)) goal
      p.pushAll n extras goal) p

/-- Goes back to the nearest state in which the token fits, unless that would be too dear. The answer tells whether
there is one. -/
def findWayBack (v : Nat) (k : Kind) : List Resort → Parser → Bool × Parser
  | [], p => (false, p)
  | r :: rest, p =>
    let here := (p.place v).toPosition
    let known := p.heads.length
    let depth := if 0 < p.progress v then r.depth + 1 else r.depth
    let twin := (List.range known).any fun i =>
      p.state i = r.state && (p.place i).offset = here.offset
    if r.state = Automaton.lost || r.place.offset = here.offset || twin then findWayBack v k rest p
    else
      let cost := p.errorCost v + prices.skippedTree * r.depth +
        prices.skippedByte * (here.offset - r.place.offset) +
        prices.skippedLine * (here.row - r.place.row)
      let (dear, p) := p.betterExists v cost
      if dear then (false, p)
      else if (Automaton.actions r.state k).isEmpty then findWayBack v k rest p
      else
        match p.goBack? v depth r.state with
        | some p => (true, p)
        | none => findWayBack v k rest p

/-- Skips a token on a lost head: it joins what has been skipped before. -/
def skipToken (p : Parser) (v : Nat) (t : Token) : Parser :=
  let extra := t.extra || t.kind.isExtra
  let tree := Tree.skip false false (p.place v) [.leaf { t with extra }]
  let p :=
    if 0 < p.progress v then
      match p.graph.pop (p.head v).node 1 with
      | (node, trees :: _) :: _ =>
        let c := ((p.graph.get? node).map (·.place)).getD (p.place v)
        let resorts := (p.head v).resorts
        let h := { p.head v with node, resorts, status := .active }
        (p.setHead v h).push v (some (Tree.skip false false c (trees ++ [tree]))) Automaton.lost
      | _ => p.push v (some tree) Automaton.lost
    else p.push v (some tree) Automaton.lost
  match t.layout with
  | none => p
  | some l => p.setHead v { p.head v with layout := some l }

/-- What a lost head does with a token: it goes back to a state where the token fits, and it also skips the token,
unless that is pointless. At the end of the text all that is left becomes one wreck. -/
def recover (p : Parser) (v : Nat) (t : Token) : Parser :=
  let p := p.clamp v
  let dear := p.errorCost v + prices.skippedTree +
    prices.skippedByte * (Tree.leaf t).bytes + prices.skippedLine * (Tree.leaf t).rows
  let (helped, p) :=
    if t.kind = .error then (false, p) else findWayBack v t.kind ((p.head v).resorts.getD []) p
  if helped && (maxHeads < p.heads.length || t.layoutChanged) then p.halt v
  else if t.kind = .endOfInput then
    (p.push v (some (Tree.skip true false (p.place v) [])) Automaton.begin).accept v t
  else
    let (pointless, p) := p.betterExists v dear
    if pointless then p.halt v else p.skipToken v t

/-- Begins repair of a head at a token that fits nowhere. -/
def handleError (fuel : Nat) (p : Parser) (v : Nat) (t : Token) : Parser :=
  let before := p.heads.length
  let (p, _) := reduceAll v none before fuel 0 v false p
  let count := p.heads.length
  let more := (List.range count).filter (before ≤ ·)
  let p := loseHeads fuel t.kind (v :: more) false p
  let p := more.foldl (fun p _ => (p.merge? v before).getD p) p
  let p := p.setHead v { p.head v with resorts := some (p.graph.resorts (p.head v).node) }
  p.recover v t

end CodeAudit.Syntax.Parser
