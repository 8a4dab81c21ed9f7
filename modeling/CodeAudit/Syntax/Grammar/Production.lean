import CodeAudit.Syntax.Kind

/-! Productions of the grammar: what the children of a node may be, place by place. -/
namespace CodeAudit.Syntax

/-- One place on the right side of a production: the kinds that may stand there, the name the parent gives to
the child, and the kind under which the child is shown if that is not its own. -/
structure Place where
  kinds : List Kind
  name : Option Field := none
  shown : Option Kind := none

namespace Place

def one (k : Kind) : Place := { kinds := [k] }

def any (ks : List Kind) : Place := { kinds := ks }

def field (p : Place) (f : Field) : Place := { p with name := some f }

def shownAs (p : Place) (k : Kind) : Place := { p with shown := some k }

end Place

/-- A node of kind `head` has one child for each place. Of two readings of the same text the heavier wins. -/
structure Production where
  head : Kind
  places : List Place
  weight : Int

/-- The productions that the automaton applies by one and the same move: they agree in head, length, weight and in
the names of their places. -/
abbrev Reduction := List Production

end CodeAudit.Syntax
