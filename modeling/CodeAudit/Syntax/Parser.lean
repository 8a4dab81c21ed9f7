import CodeAudit.Syntax.Reader
import CodeAudit.Syntax.Stack

/-!
A parser that follows several readings of a text side by side. A reading is a head of the shared stacks; where the
automaton proposes more than one move, or goes on after an error in more than one way, there are more heads. Heads
that come to stand for the same situation are merged, heads that are clearly worse are given up.
-/
namespace CodeAudit.Syntax

/-- A head waits when its next token fits nowhere, until it is clear that no other head does better. -/
inductive Status where
  | active
  | paused (token : Token)
  | halted

/-- One reading: its node, the states it could go back to, the size of its stack at the last error and the layout
behind its last layout token. -/
structure Head where
  node : Nat
  resorts : Option (List Resort) := none
  mark : Nat := 0
  layout : Option Layout := none
  status : Status := .active

namespace Status

def isActive : Status → Bool
  | .active => true
  | _ => false

def isPaused : Status → Bool
  | .paused _ => true
  | _ => false

def isHalted : Status → Bool
  | .halted => true
  | _ => false

end Status

/-- The heads, the best tree of a whole text so far and how often one was finished. -/
structure Parser where
  graph : Graph
  heads : List Head
  finished : Option Tree := none
  finishes : Nat := 0

/-- How a head compares: its price, how much it has read since its last error, its weight, and whether it is in
error right now. -/
structure Standing where
  cost : Nat
  progress : Nat
  weight : Int
  inError : Bool

inductive Verdict where
  | takeLeft
  | preferLeft
  | undecided
  | preferRight
  | takeRight
deriving DecidableEq

/-- A head without an error beats one in error. Else the cheaper head is preferred, and taken for good if the
difference is large for what it has read since. -/
def Standing.compare (a b : Standing) : Verdict :=
  let limit := 16 * prices.skippedTree
  if !a.inError && b.inError then if a.cost < b.cost then .takeLeft else .preferLeft
  else if a.inError && !b.inError then if b.cost < a.cost then .takeRight else .preferRight
  else if a.cost < b.cost then
    if limit < (b.cost - a.cost) * (1 + a.progress) then .takeLeft else .preferLeft
  else if b.cost < a.cost then
    if limit < (a.cost - b.cost) * (1 + b.progress) then .takeRight else .preferRight
  else if b.weight < a.weight then .preferLeft
  else if a.weight < b.weight then .preferRight
  else .undecided

namespace Reduction

def length (r : Reduction) : Nat :=
  (r.head?.map (·.places.length)).getD 0

def kind (r : Reduction) : Kind :=
  (r.head?.map (·.head)).getD .error

end Reduction

namespace Parser

/-- At most six heads go on; up to ten may exist for a while. -/
def maxHeads : Nat := 6

def spareHeads : Nat := 4

def start (text : List Char) : Parser :=
  { graph := Sequence.empty.push { state := Automaton.begin, place := .start text }
    heads := [{ node := 0 }] }

def head (p : Parser) (v : Nat) : Head :=
  (p.heads[v]?).getD { node := 0 }

/-- The node of a head. -/
def top (p : Parser) (v : Nat) : StackNode :=
  (p.graph.get? (p.head v).node).getD { state := Automaton.lost, place := .start [] }

def state (p : Parser) (v : Nat) : Nat :=
  (p.top v).state

def place (p : Parser) (v : Nat) : Cursor :=
  (p.top v).place

def setHead (p : Parser) (v : Nat) (h : Head) : Parser :=
  { p with heads := p.heads.set v h }

def remove (p : Parser) (v : Nat) : Parser :=
  { p with heads := p.heads.eraseIdx v }

def halt (p : Parser) (v : Nat) : Parser :=
  p.setHead v { p.head v with status := .halted }

/-- Pushes a tree, or the mark of a lost way, which is also where progress is counted from. -/
def push (p : Parser) (v : Nat) (tree : Option Tree) (state : Nat) : Parser :=
  let h := p.head v
  let node := p.graph.above h.node tree state
  let mark := if tree.isNone then node.count else h.mark
  { p with
    graph := p.graph.push node
    heads := p.heads.set v { h with node := p.graph.size, mark } }

def pushAll (p : Parser) (v : Nat) (trees : List Tree) (state : Nat) : Parser :=
  trees.foldl (fun p t => p.push v (some t) state) p

/-- Adds a head at another node that continues a given one. -/
def fork (p : Parser) (v node : Nat) : Parser :=
  { p with heads := p.heads ++ [{ p.head v with node, resorts := none, status := .active }] }

/-- Puts a later head in the place of an earlier one. -/
def replace (p : Parser) (later earlier : Nat) : Parser :=
  let h := p.head later
  let h := { h with resorts := h.resorts.or (p.head earlier).resorts }
  (p.setHead earlier h).remove later

def canMerge (p : Parser) (a b : Nat) : Bool :=
  (p.head a).status.isActive && (p.head b).status.isActive &&
    Graph.alike (p.top a) (p.top b) && (p.head a).layout = (p.head b).layout

/-- Merges head `b` into head `a`, if they stand for the same situation. -/
def merge? (p : Parser) (a b : Nat) : Option Parser :=
  if p.canMerge a b then
    let n := (p.head a).node
    let graph := (p.top b).links.foldl (fun g l => g.addLink (p.graph.size + 1) n l) p.graph
    let p := { p with graph }
    let p :=
      if p.state a = Automaton.lost then p.setHead a { p.head a with mark := (p.top a).count }
      else p
    some (p.remove b)
  else none

/-- Merges head `b` into the first of the given heads that allows it. -/
def mergeFirst? (p : Parser) (b : Nat) : List Nat → Option Parser
  | [] => none
  | a :: rest => (p.merge? a b).or (p.mergeFirst? b rest)

def errorCost (p : Parser) (v : Nat) : Nat :=
  let node := p.top v
  let lost := node.state = Automaton.lost && node.links.head?.any (·.tree.isNone)
  if (p.head v).status.isPaused || lost then node.cost + prices.recovery else node.cost

/-- Number of nodes since the last error. -/
def progress (p : Parser) (v : Nat) : Nat :=
  (p.top v).count - (p.head v).mark

/-- Takes back the mark of a head whose stack has become smaller than at its last error. This is done whenever the
progress of a head is looked at. -/
def clamp (p : Parser) (v : Nat) : Parser :=
  let h := p.head v
  p.setHead v { h with mark := min h.mark (p.top v).count }

def standing (p : Parser) (v : Nat) : Standing :=
  let paused := (p.head v).status.isPaused
  { cost := p.errorCost v + if paused then prices.skippedTree else 0
    progress := p.progress v
    weight := (p.top v).weight
    inError := paused || p.state v = Automaton.lost }

/-- Whether one of the given heads makes it pointless to go on with head `v`, whose standing would be `mine`. -/
def isBeaten (v : Nat) (mine : Standing) : List Nat → Parser → Bool × Parser
  | [], p => (false, p)
  | i :: rest, p =>
    if i != v && (p.head i).status.isActive && (p.place v).offset ≤ (p.place i).offset then
      let p := p.clamp i
      match mine.compare (p.standing i) with
      | .takeRight => (true, p)
      | .preferRight => if p.canMerge i v then (true, p) else isBeaten v mine rest p
      | _ => isBeaten v mine rest p
    else isBeaten v mine rest p

/-- Whether going on with a head at the given price is pointless. -/
def betterExists (p : Parser) (v cost : Nat) : Bool × Parser :=
  if p.finished.any (·.cost ≤ cost) then (true, p)
  else
    let p := p.clamp v
    let mine : Standing :=
      { cost, progress := p.progress v, weight := (p.top v).weight, inError := false }
    isBeaten v mine (List.range p.heads.length) p

/-- The best of several ways to make the node of a reduction, with the extras behind it. -/
def bestNode (r : Reduction) (c : Cursor) (lists : List (List Tree)) : Option (Tree × List Tree) :=
  lists.foldl (fun best trees =>
    let (children, extras) := Tree.splitExtras trees
    match Tree.reduce? r c children, best with
    | none, _ => best
    | some t, none => some (t, extras)
    | some t, some (b, _) => if Tree.isBetter b t then some (t, extras) else best) none

/-- Pushes the node of a reduction onto a bared node, as a new head that continues head `v`. -/
def reduceOnto (p : Parser) (v : Nat) (r : Reduction) (bared : Nat × List (List Tree)) : Parser :=
  let (node, lists) := bared
  let n := p.heads.length
  if maxHeads + spareHeads < n then p
  else
    let below := (p.graph.get? node).getD (p.top v)
    match bestNode r below.place lists with
    | none => p
    | some (tree, extras) =>
      let state := (Automaton.goto? below.state r.kind).getD Automaton.lost
      let p := (((p.fork v node).push n (some tree) state).pushAll n extras state)
      (p.mergeFirst? n ((List.range n).filter (· != v))).getD p

/-- Performs a reduction on a head. The results are new heads, of which the first is named. -/
def reduce (p : Parser) (v : Nat) (r : Reduction) : Parser × Option Nat :=
  let n := p.heads.length
  let p := (p.graph.pop (p.head v).node r.length).foldl (fun p bared => p.reduceOnto v r bared) p
  (p, if n < p.heads.length then some n else none)

/-- Pushes a token. -/
def shift (p : Parser) (v : Nat) (t : Token) (extra : Bool) (state : Nat) : Parser :=
  let p := p.push v (some (.leaf { t with extra })) state
  match t.layout with
  | none => p
  | some l => p.setHead v { p.head v with layout := some l }

/-- The tree of a whole text from the trees on a stack: the last of them that is no extra takes the others in. -/
def wholeTree? (c : Cursor) (trees : List Tree) : Option Tree :=
  let (children, extras) := Tree.splitExtras trees
  match children.getLast? with
  | some (.node p cs _) => some (Tree.make p c (children.dropLast ++ cs ++ extras))
  | some (.wreck whole _ cs _) =>
    some (Tree.skip whole false c (children.dropLast ++ cs ++ extras))
  | _ => none

/-- Finishes a head with the end of the text. -/
def accept (p : Parser) (v : Nat) (t : Token) : Parser :=
  let p := p.push v (some (.leaf t)) Automaton.begin
  let lists := (p.graph.popAll (p.head v).node).flatMap (·.2)
  let c := ((p.graph.get? 0).map (·.place)).getD (p.place v)
  let whole := lists.filterMap (wholeTree? c)
  let finished := whole.foldl (fun best t =>
    match best with
    | none => some t
    | some b => if Tree.isBetter b t then some t else best) p.finished
  { p with finished, finishes := p.finishes + whole.length }.halt v

end Parser

end CodeAudit.Syntax
