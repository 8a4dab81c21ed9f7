/-!
Tables of the automaton, packed into numbers. A table is a list of pages of 64 items. A row of moves begins with the
number of an earlier row that it changes; the changes follow, sixteen to a number. A change has 22 bits: nine for the
code of a kind, thirteen for the move, where zero takes the move of the earlier row away.
-/
namespace CodeAudit.Syntax.Automaton

abbrev Page (α : Type) := List α

abbrev Row := List Nat

variable {α : Type}

def item? (pages : List (Page α)) (i : Nat) : Option α :=
  match pages[i / 64]? with
  | some page => page[i % 64]?
  | none => none

/-- The number that `width` bits hold from position `at` on. -/
def bits (n position width : Nat) : Nat :=
  (n >>> position) % Nat.pow 2 width

/-- The change for a code among at most `count` changes packed into `n`. -/
def change? (code : Nat) : (count n : Nat) → Option Nat
  | 0, _ => none
  | count + 1, n =>
    if n = 0 then none
    else if n % 512 = code then some (bits n 9 13)
    else change? code count (n >>> 22)

/-- The move for a code in the row with the given number. No row is more than sixteen changes away from the empty
one. -/
def move? (rows : List (Page Row)) (code : Nat) : (steps row : Nat) → Option Nat
  | 0, _ => none
  | steps + 1, row =>
    match item? rows row with
    | some (base :: changes) =>
      match changes.findSome? (change? code 16) with
      | some move => if move = 0 then none else some move
      | none => if base = row then none else move? rows code steps base
    | _ => none

end CodeAudit.Syntax.Automaton
