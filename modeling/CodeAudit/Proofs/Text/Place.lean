import CodeAudit.Proofs.Text.Lines
import CodeAudit.Proofs.Text.Reach

/-! Places in a text by lines. The row of a place counts the line feeds in front of it and its column the bytes behind
the last of them, and the lines of a part of a text are found in the text, row by row. -/
namespace CodeAudit

namespace Text

/-- A text parts in lines that have ended and the beginning of one more line. -/
theorem exists_ended_append (text : List Char) :
    ∃ before margin, text = before ++ margin ∧ Ended before ∧ '\n' ∉ margin := by
  induction text with
  | nil => exact ⟨[], [], rfl, by simp [Ended], by simp⟩
  | cons c text ih =>
    obtain ⟨before, margin, rfl, ended, one⟩ := ih
    by_cases inside : before = [] ∧ c ≠ '\n'
    · obtain ⟨rfl, other⟩ := inside
      exact ⟨[], c :: margin, rfl, ended, by simpa [one] using other.symm⟩
    · refine ⟨c :: before, margin, rfl, ended_cons.mpr ⟨fun none => ?_, ended⟩, one⟩
      by_contra other
      exact inside ⟨none, other⟩

end Text

namespace Cursor

open Text

theorem row_skip (n : Nat) (c : Cursor) : (c.skip n).row = c.row + (c.rest.take n).count '\n' := by
  induction n generalizing c with
  | zero => simp [skip]
  | succ n ih =>
    obtain ⟨p, rest⟩ := c
    cases rest with
    | nil => simp [skip, ih]
    | cons x rest =>
      rw [skip, next_cons, ih, List.take_succ_cons, Position.after]
      split
      · next feed =>
        subst feed
        rw [List.count_cons_self]
        exact Nat.add_right_comm p.row 1 _
      · next other => rw [List.count_cons_of_ne other]

/-- Behind a line feed a column begins anew. -/
theorem column_skip_ended (n : Nat) (c : Cursor) (ended : Ended (c.rest.take n))
    (begun : c.rest.take n = [] → c.column = 0) : (c.skip n).column = 0 := by
  induction n generalizing c with
  | zero => exact begun rfl
  | succ n ih =>
    obtain ⟨p, rest⟩ := c
    cases rest with
    | nil => exact ih ⟨p, []⟩ (by simp [Ended]) fun _ => begun rfl
    | cons x rest =>
      rw [List.take_succ_cons, ended_cons] at ended
      refine ih ⟨p.after x, rest⟩ ended.2 fun none => ?_
      rw [Position.after, if_pos (ended.1 none)]

theorem column_skip (n : Nat) (c : Cursor) (one : '\n' ∉ c.rest.take n) :
    (c.skip n).column = c.column + byteCount (c.rest.take n) := by
  induction n generalizing c with
  | zero => simp [skip, byteCount]
  | succ n ih =>
    obtain ⟨p, rest⟩ := c
    cases rest with
    | nil => simp [skip, ih, byteCount]
    | cons x rest =>
      rw [List.take_succ_cons, List.mem_cons, not_or] at one
      have other : x ≠ '\n' := Ne.symm one.1
      rw [skip, next_cons, ih _ one.2, Position.after, if_neg other, List.take_succ_cons]
      simp only [byteCount, List.map_cons, total_cons]
      omega

/-- A place in a text, with the lines in front of it and what stands in front of it in its own line. -/
structure Stands (text : List Char) (c : Cursor) (before margin : List Char) : Prop where
  split : text = before ++ margin ++ c.rest
  ended : Ended before
  apart : '\n' ∉ margin
  offset : c.offset = byteCount (before ++ margin)
  row : c.row = before.count '\n'
  column : c.column = byteCount margin

theorem Reaches.stands {text : List Char} {c : Cursor} (within : (start text).Reaches c) :
    ∃ before margin, Stands text c before margin := by
  obtain ⟨n, rfl⟩ := within
  have rest : ((start text).skip n).rest = text.drop n := rest_skip n _
  obtain ⟨before, margin, split, ended, one⟩ := exists_ended_append (text.take n)
  -- The way there leads by the beginning of the line.
  have length : before.length + margin.length = (text.take n).length := by rw [split, List.length_append]
  have whole : (start text).skip n = ((start text).skip before.length).skip (n - before.length) := by
    rw [← skip_add]
    congr 1
    have := List.length_take_le n text
    omega
  have first : text.take before.length = before := by
    have : before.length ≤ n := by
      have := List.length_take_le n text
      omega
    rw [← Nat.min_eq_left this, ← List.take_take, split, List.take_left]
  have second : (text.drop before.length).take (n - before.length) = margin := by
    rw [← List.drop_take, split, List.drop_left]
  have begins : ((start text).skip before.length).rest = text.drop before.length := rest_skip _ _
  refine ⟨before, margin, ?_, ended, one, ?_, ?_, ?_⟩
  · rw [rest, ← split, List.take_append_drop]
  · rw [offset_skip, ← split]
    exact Nat.zero_add _
  · rw [row_skip]
    have count : (text.take n).count '\n' = before.count '\n' := by
      rw [split, List.count_append, List.count_eq_zero_of_not_mem one, Nat.add_zero]
    exact count ▸ Nat.zero_add _
  · have zero : ((start text).skip before.length).column = 0 :=
      column_skip_ended _ _ (first.symm ▸ ended) fun _ => rfl
    rw [whole, column_skip, zero, begins, second, Nat.zero_add]
    rw [begins, second]
    exact one

end Cursor

namespace Text

/-- The line of a place begins behind the lines in front of it. -/
theorem lineStart?_of_stands {text before margin : List Char} {c : Cursor} (stands : c.Stands text before margin) :
    lineStart? c.offset text = some (byteCount before) := by
  have line : (before ++ margin).reverse.takeWhile (· ≠ '\n') = margin.reverse := by
    have inside : ∀ x ∈ margin.reverse, x ≠ '\n' := by
      intro x member feed
      exact stands.apart (feed ▸ List.mem_reverse.mp member)
    rw [List.reverse_append, List.takeWhile_append_of_pos (by simpa using inside)]
    cases backward : before.reverse with
    | nil => simp
    | cons x rest =>
      have last : before.getLast? = some x := by rw [← List.head?_reverse, backward, List.head?_cons]
      have feed : x = '\n' := stands.ended x (by simp [last])
      simp [feed]
  rw [lineStart?, stands.offset, stands.split, takeBytes?_byteCount, Option.map_some, line, byteCount_reverse,
    byteCount_append, Nat.add_sub_cancel]

/-- The text from the beginning of the line of a place up to a place behind it can be cut out. -/
theorem slice?_of_stands {text before margin : List Char} {c c' : Cursor} (stands : c.Stands text before margin)
    (reaches : c.Reaches c') : ∃ body, c.rest = body ++ c'.rest ∧
      c'.offset = byteCount (before ++ (margin ++ body)) ∧
      slice? (byteCount before) c'.offset text = some (margin ++ body) := by
  obtain ⟨body, rest, offset⟩ := reaches.between
  have whole : text = before ++ ((margin ++ body) ++ c'.rest) := by
    rw [stands.split, rest]
    simp only [List.append_assoc]
  have ends : c'.offset = byteCount (before ++ (margin ++ body)) := by
    rw [offset, stands.offset, ← byteCount_append, List.append_assoc]
  refine ⟨body, rest, ends, ?_⟩
  rw [ends, byteCount_append, slice?, if_pos (Nat.le_add_right _ _), whole, dropBytes?_byteCount, Option.bind_some,
    Nat.add_sub_cancel_left, takeBytes?_byteCount]

theorem lineFeed_notMem_lines (text : List Char) : ∀ line ∈ lines text, '\n' ∉ line := by
  fun_induction lines text with
  | case1 => simp
  | case2 rest ih => exact List.forall_mem_cons.mpr ⟨List.not_mem_nil, ih⟩
  | case3 rest ih => exact List.forall_mem_cons.mpr ⟨List.not_mem_nil, ih⟩
  | case4 c rest feed => simpa using Ne.symm feed
  | case5 c rest feed _ line more found ih =>
    rw [found] at ih
    obtain ⟨first, others⟩ := List.forall_mem_cons.mp ih
    refine List.forall_mem_cons.mpr ⟨?_, others⟩
    rw [List.mem_cons, not_or]
    exact ⟨Ne.symm feed, first⟩

theorem lines_single {piece : List Char} (some : piece ≠ []) (one : '\n' ∉ piece) : lines piece = [piece] := by
  induction piece with
  | nil => contradiction
  | cons c piece ih =>
    rw [List.mem_cons, not_or] at one
    have feed : c ≠ '\n' := Ne.symm one.1
    cases piece with
    | nil => simp [lines]
    | cons d piece =>
      refine lines_cons feed (fun _ first => ?_) (ih (List.cons_ne_nil _ _) one.2)
      exact one.2 (Option.some.inj first ▸ List.mem_cons_self ..)

/-- The line that a text without line feeds begins goes on behind it. A carriage return at its end may turn out to be
part of the line end. -/
theorem lines_begun {piece : List Char} (some : piece ≠ []) (one : '\n' ∉ piece) (rest : List Char) :
    ∃ line more, lines (piece ++ rest) = line :: more ∧ piece <+: line ++ ['\r'] := by
  induction piece with
  | nil => contradiction
  | cons c piece ih =>
    rw [List.mem_cons, not_or] at one
    by_cases pair : c = '\r' ∧ (piece ++ rest).head? = Option.some '\n'
    · obtain ⟨rfl, feed⟩ := pair
      cases piece with
      | nil =>
        obtain ⟨rest, rfl⟩ : ∃ tail, rest = '\n' :: tail := by
          cases rest with
          | nil => contradiction
          | cons x tail => exact ⟨tail, by rw [Option.some.inj feed]⟩
        exact ⟨[], lines rest, rfl, List.prefix_rfl⟩
      | cons d piece => exact absurd (Option.some.inj feed ▸ List.mem_cons_self ..) one.2
    · have alone : c = '\r' → (piece ++ rest).head? ≠ Option.some '\n' := fun same feed => pair ⟨same, feed⟩
      have feed : c ≠ '\n' := Ne.symm one.1
      cases piece with
      | nil =>
        cases found : lines rest with
        | nil =>
          obtain rfl := lines_eq_nil.mp found
          exact ⟨[c], [], by simp [lines], by simp⟩
        | cons line more => exact ⟨c :: line, more, lines_cons feed alone found, by simp⟩
      | cons d piece =>
        obtain ⟨line, more, found, begins⟩ := ih (List.cons_ne_nil _ _) one.2
        exact ⟨c :: line, more, lines_cons feed alone found, List.cons_prefix_cons.mpr ⟨rfl, begins⟩⟩

/-- The lines of a part of a text that begins with a line are lines of the text. Only the last of them may go on behind
the part. -/
theorem lines_of_part {before part : List Char} (ended : Ended before) (after : List Char) {k : Nat}
    {line : List Char} (found : (lines part)[k]? = some line) :
    ∃ whole, (lines (before ++ part ++ after))[before.count '\n' + k]? = some whole ∧
      (line = whole ∨ k + 1 = (lines part).length ∧ line <+: whole ++ ['\r']) := by
  obtain ⟨front, piece, rfl, frontEnded, one⟩ := exists_ended_append part
  have inside : (lines (before ++ (front ++ piece) ++ after))[before.count '\n' + k]? =
      (lines front ++ lines (piece ++ after))[k]? := by
    rw [List.append_assoc, List.append_assoc, lines_append ended, lines_append frontEnded,
      List.getElem?_append_right (length_lines ended ▸ Nat.le_add_right _ _), length_lines ended,
      Nat.add_sub_cancel_left]
  rw [inside]
  rw [lines_append frontEnded] at found ⊢
  by_cases earlier : k < (lines front).length
  · rw [List.getElem?_append_left earlier] at found ⊢
    exact ⟨line, found, .inl rfl⟩
  · have later := Nat.le_of_not_lt earlier
    have some : piece ≠ [] := by
      rintro rfl
      rw [lines, List.append_nil, List.getElem?_eq_none later] at found
      contradiction
    obtain ⟨whole, more, goesOn, begins⟩ := lines_begun some one after
    rw [lines_single some one] at found ⊢
    rw [List.getElem?_append_right later] at found ⊢
    obtain ⟨last, rfl⟩ : k - (lines front).length = 0 ∧ piece = line := by
      simpa [List.getElem?_singleton] using found
    refine ⟨whole, by rw [goesOn, last, List.getElem?_cons_zero], .inr ⟨?_, begins⟩⟩
    rw [List.length_append, List.length_singleton]
    omega

end Text

end CodeAudit
