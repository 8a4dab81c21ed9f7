import CodeAudit.Flow.Basic
import CodeAudit.Syntax.Node

/-!
The flow of control in a piece of syntax. Comments have none. The `elif` clauses of a statement are siblings in the
syntax but each lies in the way out of the one before it, so they become conditionals within conditionals, with the
`else` part innermost. Operands joined by one and the same boolean operator become one chain.
-/
namespace CodeAudit.Flow

open Syntax

/-- Nodes that have a part in the flow of control. -/
def counts (k : Kind) : Bool :=
  k.isNamed && k != .comment

/-- The parts of a conditional statement: what stands before its clauses, the `elif` clauses in order, and the last
`else` part. -/
structure Clauses where
  head : List Flow := []
  elifs : List (List Flow) := []
  orelse : Option (List Flow) := none

/-- The conditional with its clauses put into each other. -/
def Clauses.fold (c : Clauses) : Flow :=
  let last := c.orelse.map (node .other)
  let tail := c.elifs.foldr (fun parts tail => some (node .conditional (parts ++ tail.toList))) last
  node .conditional (c.head ++ tail.toList)

/-- The operator of a boolean operation with the given children. -/
def operator? (children : List Node) : Option Kind :=
  (children.find? (·.label.field = some .operator)).map Node.kind

def isHandler (k : Kind) : Bool :=
  k = .exceptClause || k = .exceptGroupClause

/-- An exception block with the given children. -/
def blockShape (children : List Node) : Shape :=
  .exceptions (children.countP (isHandler ·.kind)) (children.countP (·.kind = .finallyClause))

mutual

def ofNode : Node → Flow
  | .mk l cs =>
    match l.kind with
    | .ifStatement => (clauses cs).fold
    | .forStatement | .whileStatement => node .loop (ofNodes cs)
    | .booleanOperator =>
      let operands := operandsAt (operator? cs) .left cs ++ operandsAt (operator? cs) .right cs
      node (.boolean operands.length) operands
    | .tryStatement => node (blockShape cs) (ofNodes cs)
    | _ => node .other (ofNodes cs)

/-- The flow of those children that have one. -/
def ofNodes : List Node → List Flow
  | [] => []
  | n :: rest => if counts n.kind then ofNode n :: ofNodes rest else ofNodes rest

def clauses : List Node → Clauses
  | [] => {}
  | .mk l cs :: rest =>
    let later := clauses rest
    if l.kind = .elifClause then { later with elifs := ofNodes cs :: later.elifs }
    else if l.kind = .elseClause then { later with orelse := later.orelse.or (some (ofNodes cs)) }
    else if counts l.kind then { later with head := ofNode (.mk l cs) :: later.head }
    else later

/-- The operands on one side of a boolean operation. An operation of the same operator there is part of the chain. -/
def operandsAt (op : Option Kind) (side : Field) : List Node → List Flow
  | [] => []
  | .mk l cs :: rest =>
    if l.field = some side then
      if l.kind = .booleanOperator && operator? cs = op then
        operandsAt op .left cs ++ operandsAt op .right cs
      else [ofNode (.mk l cs)]
    else operandsAt op side rest

end

end CodeAudit.Flow
