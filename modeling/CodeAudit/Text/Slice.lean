import CodeAudit.Data.Total

/-!
Parts of a text by bytes of its UTF-8 form. A part that would cut a character or reach beyond the text does not exist.
-/
namespace CodeAudit.Text

/-- Number of bytes of a text. -/
def byteCount (cs : List Char) : Nat :=
  total (cs.map Char.utf8Size)

/-- A text without its first `n` bytes. -/
def dropBytes? (n : Nat) : List Char → Option (List Char)
  | [] => if n = 0 then some [] else none
  | c :: rest =>
    if n = 0 then some (c :: rest) else if c.utf8Size ≤ n then dropBytes? (n - c.utf8Size) rest else none

/-- The first `n` bytes of a text. -/
def takeBytes? (n : Nat) : List Char → Option (List Char)
  | [] => if n = 0 then some [] else none
  | c :: rest =>
    if n = 0 then some []
    else if c.utf8Size ≤ n then (takeBytes? (n - c.utf8Size) rest).map (c :: ·)
    else none

/-- The bytes of a text from `start` up to, but without, `stop`. -/
def slice? (start stop : Nat) (cs : List Char) : Option (List Char) :=
  if start ≤ stop then (dropBytes? start cs).bind (takeBytes? (stop - start)) else none

/-- The byte with which the line begins in which a byte lies. -/
def lineStart? (offset : Nat) (cs : List Char) : Option Nat :=
  (takeBytes? offset cs).map fun before => offset - byteCount (before.reverse.takeWhile (· ≠ '\n'))

theorem dropBytes?_byteCount (a b : List Char) : dropBytes? (byteCount a) (a ++ b) = some b := by
  induction a with
  | nil => cases b <;> simp [dropBytes?, byteCount]
  | cons c a ih =>
    have pos := c.utf8Size_pos
    have hc : c.utf8Size ≠ 0 := by omega
    simp only [byteCount, List.map_cons, total_cons] at ih ⊢
    simp [dropBytes?, hc, ih]

theorem takeBytes?_byteCount (a b : List Char) : takeBytes? (byteCount a) (a ++ b) = some a := by
  induction a with
  | nil => cases b <;> simp [takeBytes?, byteCount]
  | cons c a ih =>
    have pos := c.utf8Size_pos
    have hc : c.utf8Size ≠ 0 := by omega
    simp only [byteCount, List.map_cons, total_cons] at ih ⊢
    simp [takeBytes?, hc, ih]

example : slice? 1 3 ['a', 'é', 'b'] = some ['é'] ∧ slice? 1 2 ['a', 'é', 'b'] = none := by decide

example : lineStart? 4 ['a', 'b', '\n', 'c', 'd'] = some 3 := by decide

end CodeAudit.Text
