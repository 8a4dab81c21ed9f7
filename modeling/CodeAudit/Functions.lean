import CodeAudit.Syntax.Definition
import CodeAudit.Text.Indentation

/-!
The functions of a module and the methods of its classes, each with a text that stands alone. Classes are searched to
any depth; what is defined within a function or another statement is part of that and not listed.
-/
namespace CodeAudit

/-- A function cut out of its module. The qualified name puts the names of the classes around it in front; the line,
counted from one, is that of the first decorator or else of the definition. -/
structure FunctionSource where
  name : String
  qualifiedName : String
  line : Nat
  source : String
deriving DecidableEq

namespace FunctionSource

open Syntax

/-- A name within a class. -/
def qualify (scope : Option String) (name : String) : String :=
  match scope with
  | none => name
  | some scope => scope ++ "." ++ name

/-- The lines of a node from the start of the first one, moved to the left by the column of the node. -/
def textOf? (module : List Char) (n : Node) : Option (List Char) :=
  (Text.lineStart? n.label.start.offset module).bind fun start =>
    (Text.slice? start n.label.stop.offset module).map (Text.dedent n.label.start.column)

def ofFunction? (module : List Char) (scope : Option String) (n : Node) : Option FunctionSource :=
  (n.name? module).bind fun name =>
    (textOf? module n).map fun text =>
      { name := .ofList name
        qualifiedName := qualify scope (.ofList name)
        line := n.label.start.row + 1
        source := .ofList text }

/-- The scope within a class whose definition has the given children. -/
def scopeOf? (module : List Char) (scope : Option String) (children : List Node) : Option String :=
  ((children.find? (·.label.field = some .name)).bind (Node.text? module)).map fun name =>
    qualify scope (.ofList name)

mutual

/-- The functions that a node brings into a scope. -/
def ofNode (module : List Char) (scope : Option String) : Node → List FunctionSource
  | .mk l cs =>
    if (Node.mk l cs).isFunction then (ofFunction? module scope (.mk l cs)).toList
    else match l.kind with
      | .classDefinition => ofBody module (scopeOf? module scope cs) cs
      | .decoratedDefinition => ofDefinition module scope cs
      | _ => []

def ofNodes (module : List Char) (scope : Option String) : List Node → List FunctionSource
  | [] => []
  | n :: rest => ofNode module scope n ++ ofNodes module scope rest

/-- The functions of the class that a decorated definition with the given children holds. -/
def ofDefinition (module : List Char) (scope : Option String) : List Node → List FunctionSource
  | [] => []
  | .mk l cs :: rest =>
    if l.field = some .definition then
      if l.kind = .classDefinition then ofBody module (scopeOf? module scope cs) cs else []
    else ofDefinition module scope rest

/-- The functions in the body of a class with the given children. A class without a name has none. -/
def ofBody (module : List Char) (inner : Option String) : List Node → List FunctionSource
  | [] => []
  | .mk l cs :: rest =>
    if l.field = some .body then
      match inner with
      | none => []
      | some name => ofNodes module (some name) cs
    else ofBody module inner rest

end

/-- The functions of a module, in the order of the text. -/
def all (module : List Char) (root : Node) : List FunctionSource :=
  ofNodes module none root.children

/-- Whether a function goes by a name, bare or qualified. -/
def goesBy (name : String) (f : FunctionSource) : Bool :=
  f.qualifiedName = name || f.name = name

/-- The first function that goes by a name. -/
def named? (name : String) (fs : List FunctionSource) : Option FunctionSource :=
  fs.find? (goesBy name)

end FunctionSource

end CodeAudit
