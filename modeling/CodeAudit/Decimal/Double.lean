/-!
Binary numbers with 53 significant bits, without a sign, and the rounding of ratios to them.
-/
namespace CodeAudit

/-- The number `significand * 2 ^ exponent`. -/
structure Double where
  significand : Nat
  exponent : Int
deriving DecidableEq

namespace Double

/-- The least exponent of a binary number. -/
def least : Int := -1074

/-- The largest exponent of a binary number. -/
def largest : Int := 971

def zero : Double :=
  ⟨0, least⟩

/-- The ratio `num / den / 2 ^ q` as a pair of numbers. -/
def scaled (num den : Nat) (q : Int) : Nat × Nat :=
  (num * Nat.pow 2 (-q).toNat, den * Nat.pow 2 q.toNat)

/-- The exponent of the largest power of two that is not above `num / den`. -/
def log2Ratio (num den : Nat) : Int :=
  let guess : Int := (num.log2 : Int) - (den.log2 : Int)
  let (n, d) := scaled num den guess
  if n < d then guess - 1 else guess

/-- A ratio rounded to the nearest whole number, and of two equally near ones to the even one. -/
def roundDiv (num den : Nat) : Nat :=
  let m := num / den
  let rest := num % den
  if den < 2 * rest || (2 * rest = den && m % 2 = 1) then m + 1 else m

/-- The binary number nearest to a ratio; none if the ratio is beyond all of them. -/
def ofRatio? (num den : Nat) : Option Double :=
  if num = 0 then some zero
  else
    let q := max (log2Ratio num den - 52) least
    let (n, d) := scaled num den q
    let m := roundDiv n d
    let (m, q) := if m = Nat.pow 2 53 then (Nat.pow 2 52, q + 1) else (m, q)
    if largest < q then none else some ⟨m, q⟩

/-- A binary number as a ratio. -/
def ratio (x : Double) : Nat × Nat :=
  scaled x.significand 1 (-x.exponent)

/-- The product of two binary numbers, rounded. -/
def mul? (x y : Double) : Option Double :=
  ofRatio? (x.ratio.1 * y.ratio.1) (x.ratio.2 * y.ratio.2)

/-- The quotient of two binary numbers, rounded. -/
def div? (x y : Double) : Option Double :=
  ofRatio? (x.ratio.1 * y.ratio.2) (x.ratio.2 * y.ratio.1)

example : ofRatio? 1 10 = some ⟨0x1999999999999A, -56⟩ := by decide

example : ofRatio? (Nat.pow 2 53 + 1) 1 = some ⟨Nat.pow 2 52, 1⟩ := by decide

end Double

end CodeAudit
