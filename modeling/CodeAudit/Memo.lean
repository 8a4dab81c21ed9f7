/-!
Remembered results, the one used last in front. A full memo forgets the result that has not been used for the longest
time; a memo without room remembers nothing.
-/
namespace CodeAudit

structure Memo (α β : Type) where
  capacity : Nat
  entries : List (α × β) := []

namespace Memo

variable {α β : Type} [BEq α]

/-- The result for an argument, and the memo in which that is the one used last. -/
def find? (m : Memo α β) (a : α) : Option (β × Memo α β) :=
  (m.entries.lookup a).map fun b => (b, { m with entries := (a, b) :: m.entries.filter (!·.1 == a) })

/-- Remembers a result. -/
def insert (m : Memo α β) (a : α) (b : β) : Memo α β :=
  { m with entries := ((a, b) :: m.entries.filter (!·.1 == a)).take m.capacity }

/-- Forgets everything. -/
def clear (m : Memo α β) : Memo α β :=
  { m with entries := [] }

def size (m : Memo α β) : Nat :=
  m.entries.length

theorem size_insert_le (m : Memo α β) (a : α) (b : β) : (m.insert a b).size ≤ m.capacity := by
  simp only [size, insert, List.length_take]
  omega

end Memo

end CodeAudit
