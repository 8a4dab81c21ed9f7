import CodeAudit.Syntax.Tree
import CodeAudit.Text.Slice

/-!
Syntax as it is shown. Hidden kinds make no node of their own: their children stand in their place and bear the name
that the parent gave to the hidden one.
-/
namespace CodeAudit.Syntax

/-- What a node shows besides its children: its kind, the name that its parent gives to it, whether it was put in
for a missing token, whether an error lies in it, and its extent. -/
structure Label where
  kind : Kind
  field : Option Field := none
  missing : Bool := false
  hasError : Bool := false
  start : Position := {}
  stop : Position := {}

inductive Node where
  | mk (label : Label) (children : List Node)

namespace Node

def label : Node → Label
  | mk l _ => l

def children : Node → List Node
  | mk _ cs => cs

def kind (n : Node) : Kind :=
  n.label.kind

def isNamed (n : Node) : Bool :=
  n.kind.isNamed

def namedChildren (n : Node) : List Node :=
  n.children.filter isNamed

/-- The first child with a name. -/
def child? (n : Node) (f : Field) : Option Node :=
  n.children.find? (·.label.field = some f)

/-- Gives a name to a node; what may stand anywhere gets none. -/
def named (f : Option Field) (n : Node) : Node :=
  match f, n with
  | none, _ => n
  | some f, mk l cs => if l.kind.isExtra || l.kind = .error then n else mk { l with field := some f } cs

/-- The text of a node. -/
def text? (source : List Char) (n : Node) : Option (List Char) :=
  Text.slice? n.label.start.offset n.label.stop.offset source

mutual

/-- The nodes that a tree shows in a place. -/
def ofTree (place : Option Place) : Tree → List Node
  | .leaf t =>
    let k := (place.bind Place.shown).getD t.kind
    if k.isVisible then
      [mk { kind := k, field := place.bind Place.name, start := t.start, stop := t.stop.toPosition } []]
    else []
  | .missing k c =>
    if k.isVisible then
      [mk { kind := k, field := place.bind Place.name, missing := true, hasError := true
            start := c.toPosition, stop := c.toPosition } []]
    else []
  | .node p cs d =>
    let inner := ofTrees p.places cs
    let k := (place.bind Place.shown).getD p.head
    if k.isVisible then
      [mk { kind := k, field := place.bind Place.name, hasError := 0 < d.cost, start := d.start
            stop := d.stop.toPosition } inner]
    else inner.map (named (place.bind Place.name))
  | .wreck whole _ cs d =>
    let inner := ofTrees [] cs
    if whole then
      [mk { kind := .error, field := place.bind Place.name, hasError := 0 < d.cost, start := d.start
            stop := d.stop.toPosition } inner]
    else inner.map (named (place.bind Place.name))

/-- The nodes that children show in their places; extras take none. -/
def ofTrees : List Place → List Tree → List Node
  | _, [] => []
  | places, t :: ts =>
    if t.isExtra then ofTree none t ++ ofTrees places ts
    else ofTree places.head? t ++ ofTrees places.tail ts

end

end Node

end CodeAudit.Syntax
