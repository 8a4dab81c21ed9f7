import CodeAudit.Syntax.Repair

/-!
The main loop of parsing. Each round takes every head one token further, then sorts the heads out. Parsing ends
when a finished tree is cheaper than anything that could still come.
-/
namespace CodeAudit.Syntax.Parser

/-- Performs what the automaton proposes, in order, until a token is shifted. The number is that of the last head
made by a reduction; there is none once the head is done with its token. -/
inductive Progress where
  | done (p : Parser)
  | reduced (p : Parser) (last : Option Nat)

def perform (p : Parser) (v : Nat) (t : Token) (last : Option Nat) : List Action → Progress
  | [] => .reduced p last
  | .shift target onward :: rest =>
    if onward then .done (p.shift v t false target) else perform p v t last rest
  | .shiftExtra :: _ => .done (p.shift v t true (p.state v))
  | .reduce r :: rest =>
    let (p, w) := p.reduce v r
    perform p v t (w.or last) rest
  | .accept :: _ => .done (p.accept v t)
  | .recover :: _ => .done (p.recover v t)

/-- Brings a token to a head: reductions until it is shifted, else a keyword is taken for the word it is, else the
head pauses. -/
def feed : (fuel : Nat) → (v : Nat) → Token → List Action → Parser → Parser
  | 0, _, _, _, p => p
  | fuel + 1, v, t, actions, p =>
    match perform p v t none actions with
    | .done p => p
    | .reduced p (some w) =>
      let p := p.replace w v
      feed fuel v t (Automaton.actions (p.state v) t.kind) p
    | .reduced p none =>
      let word := Automaton.actions (p.state v) .identifier
      if t.wordlike && t.kind != .identifier && !word.isEmpty then
        feed fuel v { t with kind := .identifier } word p
      else if p.state v = Automaton.lost then p.recover v t
      else
        let h := p.head v
        p.setHead v { h with status := .paused t, mark := (p.top v).count }

/-- Takes a head one token further. -/
def advance (fuel : Nat) (p : Parser) (v : Nat) : Parser :=
  let h := p.head v
  let node := p.top v
  let settled := node.cost = 0 || p.graph.settled h.mark (p.graph.size + 1) h.node
  let t := Reader.next node.state h.layout settled node.place
  feed fuel v t (Automaton.actions node.state t.kind) p

/-- Takes a head further until it has got beyond `reach`, the furthest place so far. -/
def advanceTo : (fuel : Nat) → (v : Nat) → Parser × Nat → Parser × Nat
  | 0, _, s => s
  | fuel + 1, v, (p, reach) =>
    if (p.head v).status.isActive && v < p.heads.length then
      let p := p.advance fuel v
      let offset := (p.place v).offset
      if reach < offset || (0 < v && offset = reach) then (p, offset)
      else advanceTo fuel v (p, reach)
    else (p, reach)

/-- Takes all heads further, those included that come up on the way. -/
def advanceAll : (fuel : Nat) → (v : Nat) → Parser × Nat → Parser × Nat
  | 0, _, s => s
  | fuel + 1, v, (p, reach) =>
    if v < p.heads.length then advanceAll fuel (v + 1) (advanceTo fuel v (p, reach))
    else (p, reach)

/-- Compares head `i` with the heads before it, from `j` on. The answer tells where head `i` has gone, if it is
still there. -/
def settle : (fuel : Nat) → (i j : Nat) → Parser → Parser × Nat
  | 0, i, _, p => (p, i + 1)
  | fuel + 1, i, j, p =>
    if i ≤ j then (p, i + 1)
    else
      match (p.standing j).compare (p.standing i) with
      | .takeLeft => (p.remove i, i)
      | .preferLeft | .undecided =>
        match p.merge? j i with
        | some p => (p, i)
        | none => settle fuel i (j + 1) p
      | .preferRight =>
        match p.merge? j i with
        | some p => (p, i)
        | none =>
          let a := p.head i
          let b := p.head j
          settle fuel i (j + 1) ((p.setHead i b).setHead j a)
      | .takeRight => settle fuel (i - 1) j (p.remove j)

/-- Removes halted heads and sorts the others from the most to the least promising; the number is the least price of
a head that is not in error. -/
def sortHeads : (fuel : Nat) → (i : Nat) → Parser → Option Nat → Parser × Option Nat
  | 0, _, p, least => (p, least)
  | fuel + 1, i, p, least =>
    if p.heads.length ≤ i then (p, least)
    else if (p.head i).status.isHalted then sortHeads fuel i (p.remove i) least
    else
      let s := p.standing i
      let least := if s.inError || least.any (· ≤ s.cost) then least else some s.cost
      let (p, next) := settle fuel i 0 p
      sortHeads fuel next p least

/-- If the best head has paused, or all have, its repair begins; the other paused heads are given up. -/
def resume (limit : Nat) : (fuel : Nat) → (i count : Nat) → (going : Bool) → Parser → Option Nat →
    Parser × Option Nat
  | 0, _, _, _, p, least => (p, least)
  | fuel + 1, i, count, going, p, least =>
    if count ≤ i then (p, least)
    else
      match (p.head i).status with
      | .paused t =>
        if !going && p.finishes < maxHeads then
          let cost := p.errorCost i
          let p := p.setHead i { p.head i with status := .active }
          resume limit fuel (i + 1) count true (handleError limit p i t) (some cost)
        else resume limit fuel i (count - 1) going (p.remove i) least
      | _ => resume limit fuel (i + 1) count true p least

/-- Sorts the heads out; the number is the least price at which parsing could still end, if it could. -/
def condense (fuel : Nat) (p : Parser) : Parser × Option Nat :=
  let p := (List.range p.heads.length).foldl clamp p
  let (p, least) := sortHeads fuel 0 p none
  let p := { p with heads := p.heads.take maxHeads }
  resume fuel fuel 0 p.heads.length false p least

def run : (fuel : Nat) → (reach : Nat) → Parser → Option Tree
  | 0, _, _ => none
  | fuel + 1, reach, p =>
    let (p, reach) := advanceAll fuel 0 (p, reach)
    let count := p.heads.length
    let (p, least) := condense fuel p
    match p.finished with
    | some t =>
      if least.all (t.cost < ·) || count = 0 then some t else run fuel reach p
    | none => if count = 0 then none else run fuel reach p

end CodeAudit.Syntax.Parser

namespace CodeAudit.Syntax

/-- More steps than reading a text of the given length can take. -/
def stepLimit (length : Nat) : Nat :=
  256 * (length + 64)

/-- The syntax tree of a text. -/
def parse? (text : List Char) : Option Tree :=
  Parser.run (stepLimit text.length) 0 (.start text)

end CodeAudit.Syntax
