import CodeAudit.Decimal.Double

/-!
The shortest decimal form of a binary number: of the decimals with the fewest digits that are read as this number, the
nearest to it.
-/
namespace CodeAudit

/-- The number `digits * 10 ^ exponent`. -/
structure Decimal where
  digits : Nat
  exponent : Int
deriving DecidableEq

namespace Decimal

/-- A decimal and a number of units of `2 ^ q`, both multiplied by one factor that makes them whole. -/
def scaled (d : Decimal) (units : Nat) (q : Int) : Nat × Nat :=
  (d.digits * Nat.pow 10 d.exponent.toNat * Nat.pow 2 (-q).toNat,
    units * Nat.pow 2 q.toNat * Nat.pow 10 (-d.exponent).toNat)

/-- Whether a decimal is at most a number of units of `2 ^ q`. -/
def atMost (d : Decimal) (units : Nat) (q : Int) : Bool :=
  let (a, b) := d.scaled units q
  a ≤ b

/-- Whether a decimal is less than a number of units of `2 ^ q`. -/
def below (d : Decimal) (units : Nat) (q : Int) : Bool :=
  let (a, b) := d.scaled units q
  a < b

end Decimal

namespace Double

/-- The ends of the interval of all numbers that are rounded to this one, and the number itself between them, in
quarters of its last place. -/
def quarters (x : Double) : Nat × Nat × Nat :=
  let m := 4 * x.significand
  (if x.significand = Nat.pow 2 52 && least < x.exponent then m - 1 else m - 2, m, m + 2)

/-- Whether a decimal is read as this number. An end of the interval belongs to the number with an even
significand. -/
def accepts (x : Double) (d : Decimal) : Bool :=
  let (low, _, high) := x.quarters
  let q := x.exponent - 2
  if x.significand % 2 = 0 then !d.below low q && d.atMost high q else !d.atMost low q && d.below high q

/-- The exponent of the largest power of ten that is not above the number. -/
def log10 (x : Double) : Int :=
  let guess := (log2Ratio x.ratio.1 x.ratio.2 * 30103).fdiv 100000
  let fits (e : Int) : Bool := Decimal.atMost ⟨1, e⟩ x.significand x.exponent
  if fits (guess + 1) then guess + 1 else if fits guess then guess else guess - 1

/-- The neighbours of the number among the multiples of `10 ^ e`. -/
def neighbours (x : Double) (e : Int) : Decimal × Decimal :=
  let (n, d) := x.ratio
  let t := n * Nat.pow 10 (-e).toNat / (d * Nat.pow 10 e.toNat)
  (⟨t, e⟩, ⟨t + 1, e⟩)

/-- Whether the number is at most as far from the lower as from the upper neighbour; if equally far, the even one is
taken. -/
def prefersLower (x : Double) (e : Int) : Bool :=
  let (n, d) := x.ratio
  let num := n * Nat.pow 10 (-e).toNat
  let den := d * Nat.pow 10 e.toNat
  roundDiv num den = num / den

/-- The best decimal among the multiples of `10 ^ e`. -/
def onGrid? (x : Double) (e : Int) : Option Decimal :=
  let (low, high) := x.neighbours e
  if x.accepts low && (x.prefersLower e || !x.accepts high) then some low
  else if x.accepts high then some high
  else none

/-- The shortest decimal form. The first grid tried is that of the power of ten above the number, which may itself be
read as the number; on the grids below it the hit then has no trailing zero, and seventeen digits always suffice. -/
def shortest (x : Double) : Decimal :=
  if x.significand = 0 then ⟨0, 0⟩
  else
    let top := x.log10
    ((List.range 18).findSome? fun n : Nat => x.onGrid? (top + 1 - (n : Int))).getD (x.neighbours (top - 16)).1

example : shortest ⟨0x1999999999999A, -56⟩ = ⟨1, -1⟩ := by decide

example : shortest ⟨1, -1074⟩ = ⟨5, -324⟩ := by decide +kernel

example : shortest ⟨2, -1074⟩ = ⟨1, -323⟩ := by decide +kernel

end Double

end CodeAudit
