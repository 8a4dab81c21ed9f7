import CodeAudit.Proofs.Json.Lawful

/-! Records that are read back as they were written, whatever their members are. -/
namespace CodeAudit.Json

/-- A property for each of the types. -/
def Properties : List Type → Type
  | [] => Unit
  | α :: rest => (α → Prop) × Properties rest

/-- Each value has its property. -/
def Row.All : {ts : List Type} → Properties ts → Row ts → Prop
  | [], _, _ => True
  | _ :: _, (fits, more), (a, row) => fits a ∧ Row.All more row

namespace Slots

/-- Each value that has been read has its property. -/
def All : {ts : List Type} → Properties ts → Slots ts → Prop
  | [], _, _ => True
  | _ :: _, (fits, more), (slot, slots) => (∀ a ∈ slot, fits a) ∧ All more slots

/-- The first members of a row have been read. -/
def filled : {ts : List Type} → Nat → Row ts → Slots ts
  | [], _, _ => ()
  | _ :: _, 0, (_, row) => (none, filled 0 row)
  | _ :: _, k + 1, (a, row) => (some a, filled k row)

end Slots

namespace Members

open Slots (filled)

variable {ts : List Type}

def names : {ts : List Type} → Members ts → List String
  | _, nil => []
  | _, cons name _ _ more => name :: more.names

/-- Every member is read back, what stands for a missing one fits, and no two members have one name. -/
def Lawful : {ts : List Type} → Members ts → Properties ts → Prop
  | _, nil, _ => True
  | _, cons name codec ifMissing more, (fits, rest) =>
    codec.Lawful fits ∧ (∀ a ∈ ifMissing, fits a) ∧ name ∉ more.names ∧ more.Lawful rest

section Lawful

variable {α : Type} {name : String} {codec : Codec α} {fits : α → Prop} {more : Members ts} {rest : Properties ts}

theorem Lawful.nil : Members.nil.Lawful () :=
  trivial

theorem Lawful.required (item : codec.Lawful fits) (other : name ∉ more.names) (lawful : more.Lawful rest) :
    (cons name codec none more).Lawful (fits, rest) :=
  ⟨item, by simp, other, lawful⟩

theorem Lawful.optional (item : codec.Lawful fits) {default : α} (fit : fits default) (other : name ∉ more.names)
    (lawful : more.Lawful rest) : (cons name codec (some default) more).Lawful (fits, rest) :=
  ⟨item, by simpa using fit, other, lawful⟩

end Lawful

theorem map_fst_encode (ms : Members ts) (row : Row ts) : (ms.encode row).map (·.1) = ms.names := by
  induction ms with
  | nil => rfl
  | cons name codec ifMissing more ih => exact congrArg (name :: ·) (ih row.2)

theorem noSlots_eq (ms : Members ts) (row : Row ts) : ms.noSlots = filled 0 row := by
  induction ms with
  | nil => rfl
  | cons name codec ifMissing more ih => exact congrArg (none, ·) (ih row.2)

theorem finish_filled (ms : Members ts) (row : Row ts) : ms.finish (filled (ms.encode row).length row) = .ok row := by
  induction ms with
  | nil => rfl
  | cons name codec ifMissing more ih =>
    obtain ⟨a, row⟩ := row
    have rest := ih row
    rw [encode, List.length_cons, filled, finish]
    simp only [Option.some_or, rest]
    rfl

/-- The next member of a row is read into its slot. -/
theorem fill?_filled {ms : Members ts} {fits : Properties ts} (lawful : ms.Lawful fits) {row : Row ts}
    (fit : Row.All fits row) {k : Nat} {key : String} {v : Json} (here : (ms.encode row)[k]? = some (key, v)) :
    ∃ read, ms.fill? (filled k row) key = some read ∧ Reads read (':' :: v.compact) (filled (k + 1) row) := by
  induction ms generalizing k with
  | nil => cases here
  | cons name codec ifMissing more ih =>
    obtain ⟨a, row⟩ := row
    obtain ⟨item, -, other, lawful⟩ := lawful
    obtain ⟨fit_a, fit_row⟩ := fit
    cases k with
    | zero =>
      rw [encode, List.getElem?_cons_zero, Option.some.injEq, Prod.mk.injEq] at here
      obtain ⟨rfl, rfl⟩ := here
      refine ⟨_, if_pos rfl, fun p rest stops => ?_⟩
      have read := item.reads fit_a (p.after ':') rest stops
      have colon : skipColon ⟨p, ':' :: codec.write a ++ rest⟩ = .ok ⟨p.after ':', codec.write a ++ rest⟩ := by
        unfold skipColon
        rw [List.cons_append, skipBlanks_cons (by decide)]
        exact if_pos rfl
      exact bind_eq_ok.mpr ⟨_, colon, bind_eq_ok.mpr ⟨_, read, rfl⟩⟩
    | succ k =>
      rw [encode, List.getElem?_cons_succ] at here
      obtain ⟨read, found, reads⟩ := ih lawful fit_row here
      have later : key ≠ name := by
        rintro rfl
        refine other ?_
        rw [← more.map_fst_encode row]
        exact List.mem_map_of_mem (List.mem_of_getElem? here)
      refine ⟨fun c => (read c).map fun r => ((some a, r.1), r.2), ?_, fun p rest stops => ?_⟩
      · rw [filled, fill?, if_neg later, found]
        rfl
      · exact congrArg (Except.map _) (reads p rest stops)

/-- A member as it is written. -/
def memberText (m : String × Json) : List Char :=
  quoted m.1.toList ++ ':' :: m.2.compact

theorem compactMembers_eq (l : List (String × Json)) : compactMembers l = listed true (l.map memberText) := by
  induction l with
  | nil => rfl
  | cons m rest ih =>
    obtain ⟨k, v⟩ := m
    cases rest with
    | nil => simp [compactMembers, listed, comma, memberText]
    | cons m rest =>
      rw [compactMembers, ih]
      simp [listed, comma, memberText]

theorem nextKey?_key {gap : List Char} (blank : Blank gap) (first : Bool) (key : String) (p : Position)
    (more : List Char) : nextKey? first ⟨p, comma first ++ (gap ++ (quoted key.toList ++ more))⟩ =
      .ok (some (key, ⟨endOf (endOf p (comma first ++ gap)) (quoted key.toList), more⟩)) := by
  have read := readQuoted_quoted key.toList (endOf p (comma first ++ gap)) more
  have found : (readQuoted (Cursor.next ⟨endOf p (comma first ++ gap), quoted key.toList ++ more⟩)).map
      (fun r => some (String.ofList r.1, r.2)) =
        .ok (some (key, ⟨endOf (endOf p (comma first ++ gap)) (quoted key.toList), more⟩)) := by
    rw [read]
    simp [Except.map]
  obtain ⟨t, quote⟩ : ∃ t, quoted key.toList ++ more = '"' :: t := ⟨_, rfl⟩
  rw [quote] at found ⊢
  unfold nextKey?
  cases first with
  | true =>
    rw [comma, if_pos rfl, List.nil_append] at found ⊢
    rw [skipBlanks_append blank (by decide)]
    exact found
  | false =>
    rw [comma, if_neg (by decide), List.singleton_append] at found ⊢
    rw [List.cons_append, List.nil_append, skipBlanks_cons (by decide)]
    dsimp only
    rw [Cursor.next_cons, skipBlanks_append blank (by decide)]
    exact found

theorem nextKey?_end {gap : List Char} (blank : Blank gap) (first : Bool) (p : Position) (more : List Char) :
    nextKey? first ⟨p, gap ++ '\x7d' :: more⟩ = .ok none := by
  unfold nextKey?
  rw [skipBlanks_append blank (by decide)]
  rfl

/-- The members of a row are read into their slots, from the first one or behind others. -/
theorem readMembers_filled {ms : Members ts} {fits : Properties ts} (lawful : ms.Lawful fits) {row : Row ts}
    (fit : Row.All fits row) {l : List (String × Json)} {k : Nat} (left : (ms.encode row).drop k = l) {fuel : Nat}
    (enough : l.length < fuel) (first : Bool) (p : Position) (more : List Char) :
    ms.readMembers fuel first (filled k row) ⟨p, listed first (l.map memberText) ++ '\x7d' :: more⟩ =
      .ok (filled (k + l.length) row, ⟨endOf p (listed first (l.map memberText)), '\x7d' :: more⟩) := by
  induction l generalizing k fuel first p with
  | nil =>
    obtain ⟨fuel, rfl⟩ := Nat.exists_eq_add_one_of_ne_zero (Nat.ne_zero_of_lt enough)
    rw [List.map_nil, listed, List.nil_append]
    refine bind_eq_ok.mpr ⟨none, nextKey?_end blank_nil first p more, ?_⟩
    dsimp only
    rw [skipBlanks_cons (by decide)]
    rfl
  | cons m l ih =>
    obtain ⟨fuel, rfl⟩ := Nat.exists_eq_add_one_of_ne_zero (Nat.ne_zero_of_lt enough)
    have here : (ms.encode row)[k]? = some m := by
      rw [← List.head?_drop, left, List.head?_cons]
    have left' : (ms.encode row).drop (k + 1) = l := by
      rw [← List.tail_drop, left, List.tail_cons]
    obtain ⟨read, found, reads⟩ := fill?_filled lawful fit here
    have stops : Stops (listed false (l.map memberText) ++ '\x7d' :: more) :=
      stops_listed (stops_cons.mpr (by decide)) _
    have fewer : l.length < fuel := Nat.lt_of_succ_lt_succ enough
    have rest := ih left' fewer false
      (endOf (endOf (endOf p (comma first ++ [])) (quoted m.1.toList)) (':' :: m.2.compact))
    rw [List.map_cons, listed, memberText, List.append_assoc, List.append_assoc, List.append_assoc]
    refine bind_eq_ok.mpr ⟨_, nextKey?_key blank_nil first m.1 p _, ?_⟩
    dsimp only
    rw [found, Option.getD_some]
    refine bind_eq_ok.mpr ⟨_, reads _ _ stops, ?_⟩
    dsimp only
    rw [rest, List.length_cons, Nat.add_right_comm, Nat.add_assoc]
    simp

/-- The slots keep what fits, whichever member comes next. -/
theorem fits_of_fill? {ms : Members ts} {fits : Properties ts} (lawful : ms.Lawful fits) {slots slots' : Slots ts}
    (fit : Slots.All fits slots) {key : String} {read : Reader (Slots ts)} (found : ms.fill? slots key = some read)
    {c c' : Cursor} (done : read c = .ok (slots', c')) : Slots.All fits slots' := by
  induction ms with
  | nil => cases found
  | cons name codec ifMissing more ih =>
    obtain ⟨item, -, -, lawful⟩ := lawful
    obtain ⟨slot, slots⟩ := slots
    obtain ⟨fit_slot, fit_slots⟩ := fit
    rw [fill?] at found
    split at found
    · obtain rfl := Option.some.inj found
      dsimp only at done
      split at done
      · cases done
      · obtain ⟨_, -, done⟩ := bind_eq_ok.mp done
        obtain ⟨⟨a, c⟩, value, done⟩ := bind_eq_ok.mp done
        cases done
        refine ⟨fun b here => ?_, fit_slots⟩
        obtain rfl := Option.some.inj here
        exact item.fits_of_read value
    · obtain ⟨read', later, rfl⟩ := Option.map_eq_some_iff.mp found
      obtain ⟨⟨others, c⟩, rest, same⟩ := map_eq_ok.mp done
      cases same
      exact ⟨fit_slot, ih lawful fit_slots later rest⟩

theorem fits_of_readMembers {ms : Members ts} {fits : Properties ts} (lawful : ms.Lawful fits) {fuel : Nat}
    {first : Bool} {slots slots' : Slots ts} (fit : Slots.All fits slots) {c c' : Cursor}
    (done : ms.readMembers fuel first slots c = .ok (slots', c')) : Slots.All fits slots' := by
  induction fuel generalizing first slots c with
  | zero => cases done
  | succ fuel ih =>
    obtain ⟨next, -, done⟩ := bind_eq_ok.mp done
    cases next with
    | none =>
      cases done
      exact fit
    | some next =>
      obtain ⟨key, c⟩ := next
      obtain ⟨⟨slots'', c⟩, member, done⟩ := bind_eq_ok.mp done
      refine ih ?_ done
      cases found : ms.fill? slots key with
      | some read =>
        rw [found] at member
        exact fits_of_fill? lawful fit found member
      | none =>
        rw [found] at member
        obtain ⟨_, -, same⟩ := map_eq_ok.mp member
        cases same
        exact fit

theorem fits_of_noSlots (ms : Members ts) (fits : Properties ts) : Slots.All fits ms.noSlots := by
  induction ms with
  | nil => trivial
  | cons name codec ifMissing more ih => exact ⟨by simp, ih fits.2⟩

theorem fits_of_finish {ms : Members ts} {fits : Properties ts} (lawful : ms.Lawful fits) {slots : Slots ts}
    (fit : Slots.All fits slots) {row : Row ts} (done : ms.finish slots = .ok row) : Row.All fits row := by
  induction ms with
  | nil => trivial
  | cons name codec ifMissing more ih =>
    obtain ⟨-, default, -, lawful⟩ := lawful
    obtain ⟨slot, slots⟩ := slots
    obtain ⟨fit_slot, fit_slots⟩ := fit
    rw [finish] at done
    split at done
    · cases done
    · next a value =>
      obtain ⟨row, rest, same⟩ := map_eq_ok.mp done
      cases same
      refine ⟨?_, ih lawful fit_slots rest⟩
      rcases Option.or_eq_some_iff.mp value with read | ⟨-, missing⟩
      · exact fit_slot a read
      · exact default a missing

/-- The items of an array fit as members do. -/
theorem fits_of_readItems {tooShort : Nat → String} {ms : Members ts} {fits : Properties ts} (lawful : ms.Lawful fits)
    {index : Nat} {c c' : Cursor} {row : Row ts} (done : ms.readItems tooShort index c = .ok (row, c')) :
    Row.All fits row := by
  induction ms generalizing index c with
  | nil => trivial
  | cons name codec ifMissing more ih =>
    obtain ⟨item, default, -, lawful⟩ := lawful
    obtain ⟨next, -, done⟩ := bind_eq_ok.mp done
    cases next with
    | some c =>
      obtain ⟨⟨a, c⟩, value, done⟩ := bind_eq_ok.mp done
      obtain ⟨⟨row, c⟩, rest, done⟩ := bind_eq_ok.mp done
      cases done
      exact ⟨item.fits_of_read value, ih lawful rest⟩
    | none =>
      cases ifMissing with
      | none => cases done
      | some a =>
        obtain ⟨⟨row, c⟩, rest, done⟩ := bind_eq_ok.mp done
        cases done
        exact ⟨default a rfl, ih lawful rest⟩

end Members

variable {α : Type} {ts : List Type} {ms : Members ts} {fits : Properties ts}

/-- A record is read back from the object of its members. -/
theorem readRow_written (lawful : ms.Lawful fits) {row : Row ts} (fit : Row.All fits row) (expected : String) :
    Reads (readRow expected ms) (Json.object (ms.encode row)).compact row := by
  intro p rest _
  let l := listed true ((ms.encode row).map Members.memberText)
  have written : (Json.object (ms.encode row)).compact = '\x7b' :: (l ++ ['\x7d']) := by
    rw [compact, Members.compactMembers_eq]
    rfl
  have solid : ∀ t ∈ (ms.encode row).map Members.memberText, t ≠ [] := by
    intro t member
    obtain ⟨m, -, rfl⟩ := List.mem_map.mp member
    simp [Members.memberText]
  have enough : (ms.encode row).length < ('\x7b' :: (l ++ ('\x7d' :: rest))).length + 1 := by
    have short : (ms.encode row).length ≤ l.length := by simpa using length_le_listed solid true
    simp only [List.length_cons, List.length_append]
    omega
  have members := Members.readMembers_filled lawful fit List.drop_zero enough true (p.after '\x7b') rest
  rw [written, List.cons_append, List.append_assoc, List.singleton_append]
  unfold readRow
  dsimp only
  rw [skipBlanks_cons (by decide)]
  dsimp only
  rw [Cursor.next_cons, ms.noSlots_eq row]
  refine bind_eq_ok.mpr ⟨_, members, ?_⟩
  rw [Nat.zero_add, ms.finish_filled row]
  simp [pure, Except.pure, l]

theorem fits_of_readRow (lawful : ms.Lawful fits) {expected : String} {row : Row ts} {c c' : Cursor}
    (done : readRow expected ms c = .ok (row, c')) : Row.All fits row := by
  unfold readRow at done
  dsimp only at done
  split at done
  · obtain ⟨⟨slots, c⟩, members, done⟩ := bind_eq_ok.mp done
    split at done
    · next row' finished =>
      cases done
      have filled := Members.fits_of_readMembers lawful (ms.fits_of_noSlots fits) members
      exact Members.fits_of_finish lawful filled finished
    · cases done
  · obtain ⟨⟨row', c⟩, items, done⟩ := bind_eq_ok.mp done
    obtain ⟨_, -, done⟩ := bind_eq_ok.mp done
    cases done
    exact Members.fits_of_readItems lawful items
  · cases done

/-- A record fits if all of its members do. -/
theorem recordCodec_lawful {name : String} {toRow : α → Row ts} {ofRow : Row ts → α} {fits' : α → Prop}
    (lawful : ms.Lawful fits) (same : ∀ a, ofRow (toRow a) = a) (same' : ∀ row, toRow (ofRow row) = row)
    (all : ∀ a, Row.All fits (toRow a) ↔ fits' a) : (recordCodec name ms toRow ofRow).Lawful fits' where
  reads {a} fit p rest stops := by
    have read := readRow_written lawful ((all a).mpr fit) ("struct " ++ name) p rest stops
    exact map_eq_ok.mpr ⟨_, read, Prod.ext (same a) rfl⟩
  fits_of_read {c c' a} done := by
    obtain ⟨⟨row, c⟩, read, done⟩ := map_eq_ok.mp done
    cases done
    rw [← all, same']
    exact fits_of_readRow lawful read

end CodeAudit.Json
