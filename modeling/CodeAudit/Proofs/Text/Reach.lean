import CodeAudit.Text.Cursor
import CodeAudit.Text.Slice

/-! Places in one text: which of them come after which others, and the parts of the text between them. -/
namespace CodeAudit

namespace Cursor

/-- One place is met on the way forward from another. -/
def Reaches (c c' : Cursor) : Prop :=
  ∃ n, c.skip n = c'

variable {a b c : Cursor}

theorem skip_add (m n : Nat) (c : Cursor) : c.skip (m + n) = (c.skip m).skip n := by
  induction m generalizing c with
  | zero => rw [Nat.zero_add, skip]
  | succ m ih => rw [Nat.succ_add, skip, ih, skip]

theorem reaches_skip (c : Cursor) (n : Nat) : c.Reaches (c.skip n) :=
  ⟨n, rfl⟩

theorem reaches_next (c : Cursor) : c.Reaches c.next :=
  c.reaches_skip 1

theorem Reaches.refl (c : Cursor) : c.Reaches c :=
  ⟨0, rfl⟩

theorem Reaches.trans (first : a.Reaches b) (second : b.Reaches c) : a.Reaches c := by
  obtain ⟨m, rfl⟩ := first
  obtain ⟨n, rfl⟩ := second
  exact ⟨m + n, skip_add m n a⟩

theorem offset_skip (n : Nat) (c : Cursor) : (c.skip n).offset = c.offset + Text.byteCount (c.rest.take n) := by
  induction n generalizing c with
  | zero => simp [skip, Text.byteCount]
  | succ n ih =>
    obtain ⟨p, rest⟩ := c
    cases rest with
    | nil => simp [skip, ih, Text.byteCount]
    | cons x rest =>
      have one : (p.after x).offset = p.offset + x.utf8Size := by
        unfold Position.after
        split
        · next line =>
          rw [line]
          rfl
        · rfl
      simp only [skip, next_cons, ih, one, List.take_succ_cons, Text.byteCount, List.map_cons, total_cons]
      omega

/-- What lies between two places. -/
theorem Reaches.between (reaches : a.Reaches b) :
    ∃ mid, a.rest = mid ++ b.rest ∧ b.offset = a.offset + Text.byteCount mid := by
  obtain ⟨n, rfl⟩ := reaches
  refine ⟨a.rest.take n, ?_, offset_skip n a⟩
  rw [rest_skip, List.take_append_drop]

theorem Reaches.offset_le (reaches : a.Reaches b) : a.offset ≤ b.offset := by
  obtain ⟨mid, -, offset⟩ := reaches.between
  omega

theorem skip_of_rest_nil (ended : c.rest = []) (n : Nat) : c.skip n = c := by
  obtain ⟨p, rest⟩ := c
  obtain rfl : rest = [] := ended
  induction n with
  | zero => rfl
  | succ n ih => rw [skip, next_nil, ih]

/-- Going forward by no byte is staying. -/
theorem Reaches.eq_of_offset_eq (reaches : a.Reaches b) (same : a.offset = b.offset) : a = b := by
  obtain ⟨n, rfl⟩ := reaches
  cases n with
  | zero => rfl
  | succ n =>
    cases ended : a.rest with
    | nil => rw [skip_of_rest_nil ended]
    | cons x rest =>
      rw [offset_skip, ended, List.take_succ_cons, Text.byteCount, List.map_cons, total_cons] at same
      have positive := x.utf8Size_pos
      omega

/-- Of two places in a text one comes after the other. -/
theorem Reaches.total {s : Cursor} (first : s.Reaches a) (second : s.Reaches b) : a.Reaches b ∨ b.Reaches a := by
  obtain ⟨m, rfl⟩ := first
  obtain ⟨n, rfl⟩ := second
  rcases Nat.le_total m n with less | less
  · obtain ⟨k, rfl⟩ := Nat.exists_eq_add_of_le less
    exact .inl ⟨k, (skip_add m k s).symm⟩
  · obtain ⟨k, rfl⟩ := Nat.exists_eq_add_of_le less
    exact .inr ⟨k, (skip_add n k s).symm⟩

/-- A place in a text is known by its offset. -/
theorem eq_of_offset_eq {s : Cursor} (first : s.Reaches a) (second : s.Reaches b) (same : a.offset = b.offset) :
    a = b := by
  rcases first.total second with forward | backward
  · exact forward.eq_of_offset_eq same
  · exact (backward.eq_of_offset_eq same.symm).symm

/-- The text in front of a place. -/
theorem Reaches.front {text : List Char} (within : (start text).Reaches c) :
    ∃ front, text = front ++ c.rest ∧ c.offset = Text.byteCount front := by
  obtain ⟨front, split, offset⟩ := within.between
  exact ⟨front, split, by simpa [start] using offset⟩

end Cursor

namespace Text

variable {text : List Char} {c c' : Cursor}

theorem byteCount_append (a b : List Char) : byteCount (a ++ b) = byteCount a + byteCount b := by
  induction a with
  | nil => simp [byteCount]
  | cons x a ih =>
    simp only [byteCount, List.cons_append, List.map_cons, total_cons] at ih ⊢
    omega

theorem byteCount_reverse (a : List Char) : byteCount a.reverse = byteCount a := by
  induction a with
  | nil => rfl
  | cons x a ih =>
    rw [List.reverse_cons, byteCount_append, ih, Nat.add_comm]
    exact (byteCount_append [x] a).symm

/-- The text between two places can be cut out. -/
theorem slice?_of_reaches (within : (Cursor.start text).Reaches c) (reaches : c.Reaches c') :
    ∃ mid, c.rest = mid ++ c'.rest ∧ slice? c.offset c'.offset text = some mid := by
  obtain ⟨front, split, offset⟩ := within.front
  obtain ⟨mid, rest, stop⟩ := reaches.between
  refine ⟨mid, rest, ?_⟩
  have length : c'.offset - byteCount front = byteCount mid := by omega
  rw [slice?, if_pos reaches.offset_le, offset, split, dropBytes?_byteCount, Option.bind_some, length, rest,
    takeBytes?_byteCount]

end Text

end CodeAudit
