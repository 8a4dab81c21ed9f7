import CodeAudit.Syntax.Node
import CodeAudit.Syntax.Parse

/-!
The syntax of a whole text. A text with an error has none; it is refused with the place of the first error in the
order of the text.
-/
namespace CodeAudit.Syntax

/-- Why a text has no syntax: reading came to no end, or there is an error in the given line and column, both
counted from one. -/
inductive Refusal where
  | aborted
  | fault (line column : Nat)
deriving DecidableEq

namespace Node

def isFault (n : Node) : Bool :=
  n.kind = .error || n.label.missing

mutual

/-- Where the first error or missing token in a node begins. Only nodes in which an error lies are searched. -/
def firstFault? : Node → Option Position
  | mk l cs =>
    if (mk l cs).isFault then some l.start
    else if l.hasError then firstFaultIn? cs
    else none

def firstFaultIn? : List Node → Option Position
  | [] => none
  | n :: rest => (firstFault? n).or (firstFaultIn? rest)

end

end Node

/-- The node of a whole text, if it is free of errors. -/
def read (text : List Char) : Except Refusal Node :=
  match (parse? text).bind fun t => (Node.ofTree none t).head? with
  | none => .error .aborted
  | some n =>
    if n.label.hasError then
      match n.firstFault? with
      | some p => .error (.fault (p.row + 1) (p.column + 1))
      | none => .error (.fault 1 1)
    else .ok n

end CodeAudit.Syntax
