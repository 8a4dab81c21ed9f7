import CodeAudit.Decimal.Shortest

/-!
Written forms of decimals. In the positional form at least one digit stands on either side of the point; the other one
has the point behind the first digit and ends with a power of ten.
-/
namespace CodeAudit

/-- How decimals are written: which powers of ten of the first digit go with the positional form. -/
structure DecimalForm where
  positional : Int → Bool

namespace Decimal

def zeros (n : Nat) : List Char :=
  List.replicate n '0'

/-- The power of ten of the first digit. -/
def magnitude (d : Decimal) : Int :=
  d.exponent + (Nat.toDigits 10 d.digits).length - 1

def positional (d : Decimal) : List Char :=
  let ds := Nat.toDigits 10 d.digits
  if 0 ≤ d.exponent then ds ++ zeros d.exponent.toNat ++ ['.', '0']
  else
    let places := (-d.exponent).toNat
    let ds := zeros (places + 1 - ds.length) ++ ds
    ds.take (ds.length - places) ++ '.' :: ds.drop (ds.length - places)

/-- The power of ten has a sign and at least two digits. -/
def scientific (d : Decimal) : List Char :=
  let ds := Nat.toDigits 10 d.digits
  let power := Nat.toDigits 10 d.magnitude.natAbs
  let point := if ds.length = 1 then [] else '.' :: ds.drop 1
  ds.take 1 ++ point ++ 'e' :: (if d.magnitude < 0 then '-' else '+') :: zeros (2 - power.length) ++ power

def render (form : DecimalForm) (d : Decimal) : List Char :=
  if form.positional d.magnitude then d.positional else d.scientific

example : positional ⟨15, -1⟩ = ['1', '.', '5'] ∧ positional ⟨1, 2⟩ = ['1', '0', '0', '.', '0'] ∧
    positional ⟨5, -3⟩ = ['0', '.', '0', '0', '5'] := by decide

example : scientific ⟨184, 17⟩ = ['1', '.', '8', '4', 'e', '+', '1', '9'] ∧
    scientific ⟨1, -7⟩ = ['1', 'e', '-', '0', '7'] := by decide

end Decimal

/-- A binary number with its sign in its shortest form. -/
def Double.render (form : DecimalForm) (negative : Bool) (x : Double) : List Char :=
  (if negative then ['-'] else []) ++ x.shortest.render form

end CodeAudit
