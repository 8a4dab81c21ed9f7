import CodeAudit.Syntax.Grammar
import CodeAudit.Syntax.Automaton.Shifts
import CodeAudit.Syntax.Automaton.Gotos
import CodeAudit.Syntax.Automaton.Reduces
import CodeAudit.Syntax.Automaton.Lookaheads
import CodeAudit.Syntax.Automaton.States
import CodeAudit.Syntax.Automaton.Modes

/-!
The automaton that drives parsing: what may be done in a state before a token. The tables only propose: that a
reduction gives a node of the grammar is tested when the node is made.
-/
namespace CodeAudit.Syntax

/-- What the automaton proposes before a token. `shift` with `onward := false` would go on with a repetition that can
be finished first, and is passed over. -/
inductive Action where
  | shift (state : Nat) (onward : Bool)
  | shiftExtra
  | reduce (r : Reduction)
  | accept
  | recover

namespace Automaton

/-- The state of a parser that has lost its way, and the one it begins in. -/
def lost : Nat := 0

def begin : Nat := 1

/-- The state in which a whole module has been read. -/
def final : Nat := 2568

/-- The longest run of rows that build on each other. -/
def depth : Nat := 16

/-- The packed description of a state; see `states`. -/
def describe (state : Nat) : Nat :=
  (item? states state).getD 0

def tokenMode (state : Nat) : List Kind :=
  (tokenModes[bits (describe state) 33 4]?).getD []

def layoutMode (state : Nat) : List Kind :=
  (layoutModes[bits (describe state) 37 5]?).getD []

/-- The reductions of a packed offer that apply before the token with the given code. -/
def offered (code : Nat) : (count offer : Nat) → List Reduction
  | 0, _ => []
  | count + 1, offer =>
    if offer = 0 then []
    else
      let rest := offered code count (offer >>> 17)
      if ((item? lookaheads (bits offer 9 8)).getD 0).testBit code then
        match Grammar.reductions[bits offer 0 9 - 1]? with
        | some r => r :: rest
        | none => rest
      else rest

def reductionsBefore (state : Nat) (k : Kind) : List Reduction :=
  offered k.ctorIdx 4 ((item? reduceRows (bits (describe state) 22 11)).getD 0)

/-- The state behind a token and whether it is entered at once. -/
def shift? (state : Nat) (k : Kind) : Option (Nat × Bool) :=
  (move? shiftRows k.ctorIdx depth (bits (describe state) 0 11)).map fun m =>
    (m % 4096, m < 4096)

/-- The state behind a finished node. -/
def goto? (state : Nat) (k : Kind) : Option Nat :=
  (move? gotoRows k.ctorIdx depth (bits (describe state) 11 11)).or
    (usualGotos.tail.findSome? (change? k.ctorIdx 16))

/-- What is proposed before a token of the given kind: reductions first. -/
def actions (state : Nat) (k : Kind) : List Action :=
  if k.isExtra then [.shiftExtra]
  else if state = lost then if (Kind.endOfInput :: Kind.tokens).contains k && k != .formatText then [.recover] else []
  else if state = final && k = .endOfInput then [.accept]
  else
    (reductionsBefore state k).map .reduce ++
      match shift? state k with
      | some (target, onward) => [.shift target onward]
      | none => []

/-- The state behind a token, if it can be shifted. -/
def behind? (state : Nat) (k : Kind) : Option Nat :=
  match (actions state k).getLast? with
  | some (.shift target _) => some target
  | some .shiftExtra => some state
  | _ => none

end Automaton

end CodeAudit.Syntax
