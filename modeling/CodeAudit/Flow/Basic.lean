/-!
The flow of control in a function, as a tree. Only what bears on the measures keeps a shape of its own; all else is
`other` and holds its parts.
-/
namespace CodeAudit

/-- What a node of a flow tree is. A boolean chain joins operands by one operator; an exception block counts its
handlers and its cleanups. -/
inductive Shape where
  | other
  | conditional
  | loop
  | boolean (operands : Nat)
  | exceptions (handlers cleanups : Nat)
deriving DecidableEq

/-- Conditionals and loops are what nests. -/
def Shape.isDecision : Shape → Bool
  | .conditional | .loop => true
  | _ => false

inductive Flow where
  | node (shape : Shape) (children : List Flow)

namespace Flow

def shape : Flow → Shape
  | node s _ => s

def children : Flow → List Flow
  | node _ cs => cs

mutual

/-- Number of nodes of a tree. -/
def size : Flow → Nat
  | node _ cs => 1 + sizes cs

def sizes : List Flow → Nat
  | [] => 0
  | t :: ts => size t + sizes ts

end

mutual

/-- The nodes of a tree that are not `other`, each holding those below it. -/
def skeleton : Flow → List Flow
  | node s cs => if s = .other then skeletons cs else [node s (skeletons cs)]

def skeletons : List Flow → List Flow
  | [] => []
  | t :: ts => skeleton t ++ skeletons ts

end

end Flow

end CodeAudit
