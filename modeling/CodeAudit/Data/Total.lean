/-!
Sums of lists of numbers.
-/
namespace CodeAudit

def total {α : Type} [Add α] [OfNat α 0] (xs : List α) : α :=
  xs.foldr (· + ·) 0

variable {α : Type} [Add α] [OfNat α 0]

@[simp] theorem total_nil : total ([] : List α) = 0 := rfl

@[simp] theorem total_cons (x : α) (xs : List α) : total (x :: xs) = x + total xs := rfl

end CodeAudit
