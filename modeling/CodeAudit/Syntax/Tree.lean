import CodeAudit.Data.Total
import CodeAudit.Syntax.Grammar
import CodeAudit.Syntax.Layout

/-!
Syntax trees as the parser builds them: tokens, nodes made by a production of the grammar, and what repair leaves
behind. A tree knows what it costs, so that the parser can choose between readings. A tree that costs nothing holds
no error.
-/
namespace CodeAudit.Syntax

/-- Prices of repair. -/
structure Prices where
  recovery : Nat := 500
  missing : Nat := 110
  skippedTree : Nat := 100
  skippedByte : Nat := 1
  skippedLine : Nat := 30

def prices : Prices := {}

/-- A token as it was read. `lead` is where the blank before it begins. Text that is no token at all has the kind
`error`. `wordlike` tells that a keyword may also be read as an identifier. -/
structure Token where
  kind : Kind
  extra : Bool
  lead : Position
  start : Position
  stop : Cursor
  wordlike : Bool := false
  layout : Option Layout := none
  layoutChanged : Bool := false

/-- What is known of a tree without looking inside: where it lies, its price, the number of its nodes, its weight, the
number of nodes it shows, the layout behind its last layout token and whether one of them changed the layout. -/
structure Digest where
  lead : Position
  start : Position
  stop : Cursor
  cost : Nat := 0
  count : Nat := 1
  weight : Int := 0
  shown : Nat := 0
  layout : Option Layout := none
  layoutChanged : Bool := false

/-- A syntax tree. A wreck holds what was skipped: `whole` once parsing has gone on behind it. -/
inductive Tree where
  | leaf (token : Token)
  | missing (kind : Kind) (place : Cursor)
  | node (production : Production) (children : List Tree) (digest : Digest)
  | wreck (whole extra : Bool) (children : List Tree) (digest : Digest)

namespace Tree

def kind : Tree → Kind
  | .leaf t => t.kind
  | .missing k _ => k
  | .node p _ _ => p.head
  | .wreck whole _ _ _ => if whole then .error else .skipped

def isExtra : Tree → Bool
  | .leaf t => t.extra
  | .wreck _ extra _ _ => extra
  | _ => false

def children : Tree → List Tree
  | .node _ cs _ | .wreck _ _ cs _ => cs
  | _ => []

def digest : Tree → Digest
  | .leaf t =>
    { lead := t.lead, start := t.start, stop := t.stop, layout := t.layout
      layoutChanged := t.layoutChanged }
  | .missing _ c =>
    { lead := c.toPosition, start := c.toPosition, stop := c
      cost := prices.recovery + prices.missing }
  | .node _ _ d | .wreck _ _ _ d => d

def cost (t : Tree) : Nat :=
  t.digest.cost

def weight (t : Tree) : Int :=
  t.digest.weight

/-- Bytes from the blank before the tree to its end. -/
def bytes (t : Tree) : Nat :=
  t.digest.stop.offset - t.digest.lead.offset

def rows (t : Tree) : Nat :=
  t.digest.stop.row - t.digest.lead.row

/-- The layout behind a layout token; nodes have none of their own. -/
def ownLayout : Tree → Option Layout
  | .leaf t => t.layout
  | _ => none

/-- The kind under which a tree is shown in a place. -/
def shownKind (t : Tree) (place : Option Place) : Kind :=
  (place.bind Place.shown).getD t.kind

/-- Pairs each child with its place; extras have none. -/
def placed : List Place → List Tree → List (Option Place × Tree)
  | _, [] => []
  | places, t :: ts =>
    if t.isExtra then (none, t) :: placed places ts
    else
      match places with
      | [] => (none, t) :: placed [] ts
      | p :: places => (some p, t) :: placed places ts

/-- Number of nodes that a child shows in its place: itself, or its children if it is hidden. -/
def shows (child : Option Place × Tree) : Nat :=
  if (child.2.shownKind child.1).isVisible then 1 else child.2.digest.shown

/-- The digest of a list of trees side by side at `c`, which stands for their place if there are none. -/
def sum (c : Cursor) (children : List (Option Place × Tree)) : Digest :=
  let trees := children.map (·.2)
  let together : Digest :=
    { lead := c.toPosition, start := c.toPosition, stop := c
      cost := total ((trees.filter (·.kind != .skipped)).map cost)
      count := total (trees.map (·.digest.count)) + 1
      weight := total (trees.map weight)
      shown := total (children.map shows)
      layout := trees.foldl (fun l t => t.digest.layout.or l) none
      layoutChanged := trees.any (·.digest.layoutChanged) }
  match trees.head?, trees.getLast? with
  | some a, some b => { together with lead := a.digest.lead, start := a.digest.start, stop := b.digest.stop }
  | _, _ => together

/-- The node that a production makes of children at `c`. -/
def make (p : Production) (c : Cursor) (children : List Tree) : Tree :=
  let d := sum c (placed p.places children)
  .node p children { d with weight := d.weight + p.weight }

/-- What a skipped tree costs besides its own price. -/
def skipPrice (t : Tree) : Nat :=
  if t.isExtra || (t.kind = .error && t.children.isEmpty) then 0
  else if t.kind.isVisible then prices.skippedTree
  else if t.children.isEmpty then 0
  else prices.skippedTree * t.digest.shown

/-- A wreck of the given trees. -/
def skip (whole extra : Bool) (c : Cursor) (children : List Tree) : Tree :=
  let d := sum c (children.map fun t => (none, t))
  let lines := d.stop.row - d.start.row
  let bytes := d.stop.offset - d.start.offset
  .wreck whole extra children
    { d with
      cost := d.cost + total (children.map skipPrice) + prices.recovery + prices.skippedByte * bytes +
        prices.skippedLine * lines }

/-- The kinds of the children that fill places. -/
def filling (children : List Tree) : List Kind :=
  (children.filter (!·.isExtra)).map kind

/-- The node that a reduction makes of children at `c`, if one of its productions fits. -/
def reduce? (r : Reduction) (c : Cursor) (children : List Tree) : Option Tree :=
  (r.choose? (filling children)).map fun p => make p c children

mutual

/-- Order of trees by kind, then by number of children, then child by child. -/
def compare : Tree → Tree → Ordering
  | a, b =>
    (Ord.compare a.kind.ctorIdx b.kind.ctorIdx).then <|
      match a, b with
      | .node _ as _, b | .wreck _ _ as _, b => compareAll as b.children
      | _, b => if b.children.isEmpty then .eq else .lt

def compareAll : List Tree → List Tree → Ordering
  | [], [] => .eq
  | [], _ => .lt
  | _, [] => .gt
  | a :: as, b :: bs => (Ord.compare as.length bs.length).then ((compare a b).then (compareAll as bs))

end

/-- Whether the reading `b` is to be taken instead of `a`. -/
def isBetter (a b : Tree) : Bool :=
  if b.cost != a.cost then b.cost < a.cost
  else if b.weight != a.weight then a.weight < b.weight
  else if 0 < a.cost then true
  else compare a b == .gt

/-- Splits off the extras behind the last other tree. -/
def splitExtras (trees : List Tree) : List Tree × List Tree :=
  let extras := (trees.reverse.takeWhile isExtra).reverse
  (trees.take (trees.length - extras.length), extras)

end Tree

end CodeAudit.Syntax
