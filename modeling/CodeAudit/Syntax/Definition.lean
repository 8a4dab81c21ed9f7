import CodeAudit.Syntax.Node

/-!
Definitions of functions and classes among the nodes. A decorated definition stands for the definition that it
decorates.
-/
namespace CodeAudit.Syntax.Node

/-- The definition under its decorators; any other node is its own. -/
def definition (n : Node) : Node :=
  if n.kind = .decoratedDefinition then (n.child? .definition).getD n else n

/-- A function definition, decorated or not. -/
def isFunction (n : Node) : Bool :=
  n.kind = .functionDefinition ||
    (n.kind = .decoratedDefinition && (n.child? .definition).any (·.kind = .functionDefinition))

/-- The text of a node's first child with the field `name`. -/
def name? (source : List Char) (n : Node) : Option (List Char) :=
  (n.definition.child? .name).bind (text? source)

end CodeAudit.Syntax.Node
