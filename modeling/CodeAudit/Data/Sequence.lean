/-!
Sequences that can be read and changed anywhere in logarithmic time. They are binary trees whose nodes are numbered
along the path: below a node, odd numbers go left and even ones right.
-/
namespace CodeAudit

inductive Sequence.Nodes (α : Type) where
  | none
  | node (value : α) (odd even : Nodes α)

namespace Sequence.Nodes

variable {α : Type}

def get? : Nodes α → Nat → Option α
  | .none, _ => Option.none
  | .node x odd even, i =>
    if i = 0 then some x
    else if i % 2 = 1 then odd.get? (i / 2) else even.get? (i / 2 - 1)

/-- Puts a value at a number. In a tree with exactly the numbers below `i` that extends the tree. -/
def set (x : α) : Nodes α → Nat → Nodes α
  | .none, _ => .node x .none .none
  | .node y odd even, i =>
    if i = 0 then .node x odd even
    else if i % 2 = 1 then .node y (odd.set x (i / 2)) even
    else .node y odd (even.set x (i / 2 - 1))

end Sequence.Nodes

structure Sequence (α : Type) where
  size : Nat
  nodes : Sequence.Nodes α

namespace Sequence

variable {α : Type}

def empty : Sequence α :=
  ⟨0, .none⟩

def get? (s : Sequence α) (i : Nat) : Option α :=
  s.nodes.get? i

/-- Changes the value at an index that is in use. -/
def set (s : Sequence α) (i : Nat) (x : α) : Sequence α :=
  if i < s.size then { s with nodes := s.nodes.set x i } else s

def push (s : Sequence α) (x : α) : Sequence α :=
  ⟨s.size + 1, s.nodes.set x s.size⟩

end Sequence

end CodeAudit
