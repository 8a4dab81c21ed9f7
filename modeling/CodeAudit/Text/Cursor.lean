/-!
Places in a text. Offsets and columns count the bytes of the UTF-8 form; a line feed ends a row.
-/
namespace CodeAudit

structure Position where
  offset : Nat := 0
  row : Nat := 0
  column : Nat := 0
deriving DecidableEq

/-- The position behind a character that stands at `p`. -/
def Position.after (p : Position) (c : Char) : Position :=
  if c = '\n' then ⟨p.offset + 1, p.row + 1, 0⟩
  else ⟨p.offset + c.utf8Size, p.row, p.column + c.utf8Size⟩

/-- A position together with the text from there on. -/
structure Cursor extends Position where
  rest : List Char

namespace Cursor

def start (text : List Char) : Cursor :=
  { rest := text }

/-- One character further; the end of the text stays where it is. -/
def next (c : Cursor) : Cursor :=
  match c.rest with
  | [] => c
  | x :: rest => ⟨c.toPosition.after x, rest⟩

/-- The given number of characters further. -/
def skip : Nat → Cursor → Cursor
  | 0, c => c
  | n + 1, c => skip n c.next

def atEnd (c : Cursor) : Bool :=
  c.rest.isEmpty

/-- The position one byte further, be that within a character; the end of the text stays where it is. -/
def byteOn (c : Cursor) : Position :=
  match c.rest with
  | [] => c.toPosition
  | '\n' :: _ => ⟨c.offset + 1, c.row + 1, 0⟩
  | _ => ⟨c.offset + 1, c.row, c.column + 1⟩

/-- Behind the longest run of characters with a property. -/
def dropWhile (f : Char → Bool) (c : Cursor) : Cursor :=
  go c.toPosition c.rest
where
  go (p : Position) : List Char → Cursor
    | [] => ⟨p, []⟩
    | x :: rest => if f x then go (p.after x) rest else ⟨p, x :: rest⟩

/-- The longest run of characters with a property, and the place behind it. -/
def span (f : Char → Bool) (c : Cursor) : List Char × Cursor :=
  (c.rest.takeWhile f, c.dropWhile f)

@[simp] theorem next_nil (p : Position) : next ⟨p, []⟩ = ⟨p, []⟩ := rfl

@[simp] theorem next_cons (p : Position) (x : Char) (rest : List Char) :
    next ⟨p, x :: rest⟩ = ⟨p.after x, rest⟩ := rfl

theorem rest_skip (n : Nat) (c : Cursor) : (skip n c).rest = c.rest.drop n := by
  induction n generalizing c with
  | zero => rfl
  | succ n ih =>
    obtain ⟨p, rest⟩ := c
    cases rest with
    | nil => simp [skip, ih]
    | cons x rest => simp [skip, ih]

end Cursor

end CodeAudit
