import CodeAudit.Data.Sequence
import CodeAudit.Syntax.Automaton
import CodeAudit.Syntax.Tree

/-!
The stacks of a parser that follows several readings at once. The stacks share what they have in common: they are
paths in one graph, whose nodes point to the nodes below them. A reading is a `Head`, a node on top of its stack
or stacks.
-/
namespace CodeAudit.Syntax

/-- The way from a node to one below it. No tree lies on the way where the parser lost its way. -/
structure Link where
  below : Nat
  tree : Option Tree

/-- A state in a place of the text, with price, size and weight of the best stack under it. -/
structure StackNode where
  state : Nat
  place : Cursor
  links : List Link := []
  cost : Nat := 0
  count : Nat := 0
  weight : Int := 0

abbrev Graph := Sequence StackNode

/-- A stack walked downwards: the node that was reached, the trees on the way with the lowest first, and how many of
them fill a place. -/
structure Path where
  node : Nat
  trees : List Tree := []
  count : Nat := 0

/-- A state that the parser could go back to. -/
structure Resort where
  place : Position
  depth : Nat
  state : Nat

def Resort.isKnown (depth state : Nat) : (latestFirst : List Resort) → Bool
  | [] => false
  | r :: rest =>
    if r.depth < depth then false
    else if r.depth = depth && r.state = state then true
    else isKnown depth state rest

namespace Graph

/-- The node on top of `below` once `tree` has been pushed. -/
def above (g : Graph) (below : Nat) (tree : Option Tree) (state : Nat) : StackNode :=
  match g.get? below with
  | none => { state, place := .start [] }
  | some node =>
    let node' := { node with state, links := [⟨below, tree⟩] }
    match tree with
    | none => node'
    | some t =>
      { node' with
        place := t.digest.stop
        cost := node.cost + t.cost
        count := node.count + t.digest.count
        weight := node.weight + t.weight }

/-- Trees that need not both be kept above the same node. -/
def interchangeable : Option Tree → Option Tree → Bool
  | none, none => true
  | some a, some b =>
    a.kind = b.kind &&
      ((0 < a.cost && 0 < b.cost) ||
        (a.digest.start.offset - a.digest.lead.offset = b.digest.start.offset - b.digest.lead.offset &&
          a.digest.stop.offset - a.digest.start.offset = b.digest.stop.offset - b.digest.start.offset &&
          a.children.length = b.children.length && a.isExtra = b.isExtra &&
          a.ownLayout = b.ownLayout))
  | _, _ => false

def treeWeight (t : Option Tree) : Int :=
  (t.map Tree.weight).getD 0

/-- Nodes that stand for the same situation. -/
def alike (a b : StackNode) : Bool :=
  a.state = b.state && a.place.offset = b.place.offset && a.cost = b.cost

/-- What becomes of a link that is added to a node. -/
inductive Meeting where
  | same (index : Nat)
  | alike (below : Nat)
  | new

def meeting (g : Graph) (link : Link) : (index : Nat) → List Link → Meeting
  | _, [] => .new
  | i, old :: rest =>
    if interchangeable old.tree link.tree then
      if old.below = link.below then .same i
      else
        match g.get? old.below, g.get? link.below with
        | some a, some b => if alike a b then .alike old.below else meeting g link (i + 1) rest
        | _, _ => meeting g link (i + 1) rest
    else meeting g link (i + 1) rest

/-- Adds a way down from a node. A way that is already there keeps the heavier tree; a way to a node like one that
is already reached is merged into it, all the way down. A node has at most eight ways down. -/
def addLink : (fuel : Nat) → Graph → (node : Nat) → Link → Graph
  | 0, g, _, _ => g
  | fuel + 1, g, n, link =>
    if link.below = n then g
    else
      match g.get? n, g.get? link.below with
      | some node, some below =>
        let weight := below.weight + treeWeight link.tree
        match meeting g link 0 node.links with
        | .same i =>
          if treeWeight ((node.links[i]?).bind Link.tree) < treeWeight link.tree then
            g.set n { node with links := node.links.set i link, weight }
          else g
        | .alike old =>
          let g := below.links.foldl (fun g l => addLink fuel g old l) g
          match g.get? n with
          | some node => if node.weight < weight then g.set n { node with weight } else g
          | none => g
        | .new =>
          if node.links.length = 8 then g
          else
            let count := below.count + ((link.tree.map fun t => t.digest.count).getD 0)
            g.set n
              { node with
                links := node.links ++ [link]
                count := max count node.count
                weight := max weight node.weight }
      | _, _ => g

def step (p : Path) (l : Link) : Path :=
  match l.tree with
  | none => ⟨l.below, p.trees, p.count + 1⟩
  | some t => ⟨l.below, t :: p.trees, if t.isExtra then p.count else p.count + 1⟩

/-- One step down every path. `visit` sees each path and may end it; new paths go to the end of the line, which is
never longer than 64. -/
def stepAll {σ : Type} (g : Graph) (visit : σ → Path → StackNode → σ × Bool) :
    (todo kept new : List Path) → σ → σ × List Path
  | [], kept, new, s => (s, kept.reverse ++ new)
  | p :: todo, kept, new, s =>
    match g.get? p.node with
    | none => stepAll g visit todo kept new s
    | some node =>
      let (s, done) := visit s p node
      match done, node.links with
      | false, l :: links =>
        let room := 64 - (kept.length + 1 + todo.length + new.length)
        stepAll g visit todo (step p l :: kept) (new ++ (links.take room).map (step p)) s
      | _, _ => stepAll g visit todo kept new s

/-- Walks down all stacks under a node, side by side. -/
def walk {σ : Type} (g : Graph) (visit : σ → Path → StackNode → σ × Bool) :
    (fuel : Nat) → List Path → σ → σ
  | 0, _, s => s
  | _, [], s => s
  | fuel + 1, paths, s =>
    let (s, paths) := stepAll g visit paths [] [] s
    walk g visit fuel paths s

/-- The lists of trees that were popped, for each node that this has bared. -/
abbrev Popped := List (Nat × List (List Tree))

def Popped.add (p : Popped) (node : Nat) (trees : List Tree) : Popped :=
  match p with
  | [] => [(node, [trees])]
  | (n, lists) :: rest =>
    if n = node then (n, lists ++ [trees]) :: rest else (n, lists) :: Popped.add rest node trees

/-- Pops trees until `count` of them fill places. -/
def pop (g : Graph) (node count : Nat) : Popped :=
  walk g (fun s p _ => if p.count = count then (Popped.add s p.node p.trees, true) else (s, false))
    (g.size + 1) [{ node }] []

/-- Pops everything. -/
def popAll (g : Graph) (node : Nat) : Popped :=
  walk g
    (fun s p n => if n.links.isEmpty then (Popped.add s p.node p.trees, true) else (s, false))
    (g.size + 1) [{ node }] []

/-- The states under a node that are at most sixteen trees down, nearest first. -/
def resorts (g : Graph) (node : Nat) : List Resort :=
  let found := walk g
    (fun s p n =>
      if 16 < p.count then (s, true)
      else if Resort.isKnown p.count n.state s then (s, false)
      else (⟨n.place.toPosition, p.count, n.state⟩ :: s, false))
    (g.size + 1) [{ node }] []
  found.reverse

/-- Whether something has been read since the last error on the way down from a node, of which `since` nodes
were there at that error. -/
def settled (g : Graph) (since : Nat) : (fuel : Nat) → (node : Nat) → Bool
  | 0, _ => false
  | fuel + 1, n =>
    match g.get? n with
    | none => false
    | some node =>
      match node.links.head? with
      | some ⟨below, some t⟩ =>
        if 0 < t.bytes then true
        else if since < node.count && t.cost = 0 then settled g since fuel below
        else false
      | _ => false

end Graph

end CodeAudit.Syntax
