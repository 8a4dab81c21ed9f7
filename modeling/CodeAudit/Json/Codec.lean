import CodeAudit.Json.Skip
import CodeAudit.Json.Value
import CodeAudit.Text.Quoted

/-!
Writing values as JSON and reading them back. A record is written as an object; it is read from an object, whose
members may come in any order among others, or from an array, whose items come in the order of the members.
-/
namespace CodeAudit.Json

structure Codec (α : Type) where
  encode : α → Json
  read : Reader α

/-! ### Parts without parts -/

/-- What stands in a text where something else is wanted. -/
def Number.kind : Number → String
  | n@(.double ..) => "floating point `" ++ .ofList n.render ++ "`"
  | n => "integer `" ++ .ofList n.render ++ "`"

def wrongType (found expected : String) : String :=
  "invalid type: " ++ found ++ ", expected " ++ expected

def wrongValue (found expected : String) : String :=
  "invalid value: " ++ found ++ ", expected " ++ expected

/-- The fault of a value that is not what is expected. A value without parts is read to its end; its own faults come
first. -/
def unexpected (c : Cursor) (expected : String) : Fault :=
  let found (r : Except Fault (String × Cursor)) : Fault :=
    match r with
    | .ok (what, c) => ⟨wrongType what expected, c.toPosition⟩
    | .error f => f
  match c.rest with
  | [] => ⟨endInValue, c.byteOn⟩
  | 'n' :: _ => found ((word "ull".toList c.next).map ("null", ·))
  | 't' :: _ => found ((word "rue".toList c.next).map ("boolean `true`", ·))
  | 'f' :: _ => found ((word "alse".toList c.next).map ("boolean `false`", ·))
  | '"' :: _ => found ((readQuoted c.next).map fun (s, c) => ("string " ++ .ofList (Text.quoted s), c))
  | '[' :: _ => ⟨wrongType "sequence" expected, c.toPosition⟩
  | '\x7b' :: _ => ⟨wrongType "map" expected, c.toPosition⟩
  | x :: _ =>
    if x = '-' || x.isDigit then found ((readNumber c).map fun (n, c) => (n.kind, c)) else ⟨expectedValue, c.byteOn⟩

/-- A number of at most the given number of bits. -/
def naturalCodec (bits : Nat) (expected : String) : Codec Nat where
  encode := .number
  read c :=
    let c := skipBlanks c
    match c.rest with
    | x :: _ =>
      if x = '-' || x.isDigit then
        match readNumber c with
        | .error f => .error f
        | .ok (.natural n, c) =>
          if n < Nat.pow 2 bits then .ok (n, c) else .error ⟨wrongValue (Number.natural n).kind expected, c.toPosition⟩
        | .ok (n@(.negative _), c) => .error ⟨wrongValue n.kind expected, c.toPosition⟩
        | .ok (n, c) => .error ⟨wrongType n.kind expected, c.toPosition⟩
      else .error (unexpected c expected)
    | [] => .error (unexpected c expected)

def boolCodec : Codec Bool where
  encode := .bool
  read c :=
    let c := skipBlanks c
    match c.rest with
    | 't' :: _ => (word "rue".toList c.next).map (true, ·)
    | 'f' :: _ => (word "alse".toList c.next).map (false, ·)
    | _ => .error (unexpected c "a boolean")

def readString (expected : String) : Reader String := fun c =>
  let c := skipBlanks c
  if c.rest.head? = some '"' then (readQuoted c.next).map fun (s, c) => (.ofList s, c)
  else .error (unexpected c expected)

def stringCodec (expected : String) : Codec String where
  encode := .string
  read := readString expected

/-- `null` stands for nothing. -/
def optionCodec {α : Type} (codec : Codec α) : Codec (Option α) where
  encode
    | none => .null
    | some a => codec.encode a
  read c :=
    let c := skipBlanks c
    if c.rest.head? = some 'n' then (word "ull".toList c.next).map (none, ·)
    else (codec.read c).map fun (a, c) => (some a, c)

/-! ### Names out of a fixed list -/

def expectedOneOf (names : List String) : String :=
  "expected one of " ++ ", ".intercalate (names.map fun n => "`" ++ n ++ "`")

/-- A name, as the value that it stands for. -/
def readName {α : Type} (names : List String) (ofName? : String → Option α) : Reader α := fun c =>
  match readString "variant identifier" c with
  | .error f => .error f
  | .ok (s, c) =>
    match ofName? s with
    | some a => .ok (a, c)
    | none => .error ⟨"unknown variant `" ++ s ++ "`, " ++ expectedOneOf names, c.toPosition⟩

def readNull : Reader Unit := fun c =>
  let c := skipBlanks c
  if c.rest.head? = some 'n' then (word "ull".toList c.next).map ((), ·) else .error (unexpected c "unit")

/-- A name is written as a string. It is also read from an object whose only key it is, with nothing in it. -/
def nameCodec {α : Type} (names : List String) (name : α → String) (ofName? : String → Option α) : Codec α where
  encode a := .string (name a)
  read c :=
    let c := skipBlanks c
    match c.rest with
    | '"' :: _ => readName names ofName? c
    | '\x7b' :: _ => do
      let (a, c) ← readName names ofName? c.next
      let c ← skipColon c
      let ((), c) ← readNull c
      let c := skipBlanks c
      match c.rest with
      | '\x7d' :: _ => return (a, c.next)
      | [] => throw ⟨endInObject, c.toPosition⟩
      | _ => throw ⟨expectedValue, c.toPosition⟩
    | [] => .error ⟨endInValue, c.byteOn⟩
    | _ => .error ⟨expectedValue, c.byteOn⟩

/-! ### Lists -/

def trailingComma : String := "trailing comma"
def trailingCharacters : String := "trailing characters"

/-- The place of the next item of an array; none if there is no further one. -/
def nextItem? (first : Bool) (c : Cursor) : Except Fault (Option Cursor) :=
  let c := skipBlanks c
  match c.rest with
  | [] => .error ⟨endInList, c.byteOn⟩
  | ']' :: _ => .ok none
  | x :: _ =>
    if first then .ok (some c)
    else if x = ',' then
      let c := skipBlanks c.next
      match c.rest with
      | [] => .error ⟨endInValue, c.byteOn⟩
      | ']' :: _ => .error ⟨trailingComma, c.byteOn⟩
      | _ => .ok (some c)
    else .error ⟨Bracket.list.expectedEnd, c.byteOn⟩

/-- The end of an array of which no more items are wanted. -/
def closeList (c : Cursor) : Except Fault Cursor :=
  let c := skipBlanks c
  match c.rest with
  | [] => .error ⟨endInList, c.byteOn⟩
  | ']' :: _ => .ok c.next
  | ',' :: _ =>
    let c := skipBlanks c.next
    .error ⟨if c.rest.head? = some ']' then trailingComma else trailingCharacters, c.byteOn⟩
  | _ => .error ⟨trailingCharacters, c.byteOn⟩

/-- The items of an array. Every item takes a character. -/
def readItems {α : Type} (read : Reader α) : Nat → Bool → Reader (List α)
  | 0, _, c => .error ⟨endInList, c.toPosition⟩
  | fuel + 1, first, c => do
    match ← nextItem? first c with
    | none => return ([], c)
    | some c =>
      let (a, c) ← read c
      let (as, c) ← readItems read fuel false c
      return (a :: as, c)

/-- A collection by the list of its members. -/
def listCodec {α β : Type} (codec : Codec α) (toList : β → List α) (ofList : List α → β) : Codec β where
  encode b := .array ((toList b).map codec.encode)
  read c :=
    let c := skipBlanks c
    if c.rest.head? = some '[' then do
      let (as, c) ← readItems codec.read (c.rest.length + 1) true c.next
      let c ← closeList c
      return (ofList as, c)
    else .error (unexpected c "a sequence")

/-! ### Records -/

/-- A value of each of the types. -/
def Row : List Type → Type
  | [] => Unit
  | α :: rest => α × Row rest

/-- The members of a record that have been read. -/
def Slots : List Type → Type
  | [] => Unit
  | α :: rest => Option α × Slots rest

/-- The names of the members, how each is read, and what stands for one that is missing. -/
inductive Members : List Type → Type 1 where
  | nil : Members []
  | cons {α : Type} {rest : List Type} (name : String) (codec : Codec α) (ifMissing : Option α)
      (more : Members rest) : Members (α :: rest)

namespace Members

def size : {ts : List Type} → Members ts → Nat
  | _, nil => 0
  | _, cons _ _ _ more => more.size + 1

def encode : {ts : List Type} → Members ts → Row ts → List (String × Json)
  | _, nil, _ => []
  | _, cons name codec _ more, (a, row) => (name, codec.encode a) :: more.encode row

def noSlots : {ts : List Type} → Members ts → Slots ts
  | _, nil => ()
  | _, cons _ _ _ more => (none, more.noSlots)

/-- Where a fault with a whole record is seen after a key: at the end of the record if that comes next. -/
def behindKey (c : Cursor) : Position :=
  let c := skipBlanks c
  if c.rest.head? = some '\x7d' then c.next.toPosition else c.toPosition

/-- Reads the member with a key, from behind the key. No member may come twice. -/
def fill? : {ts : List Type} → Members ts → Slots ts → String → Option (Reader (Slots ts))
  | _, nil, _, _ => none
  | _, cons name codec _ more, (slot, slots), key =>
    if key = name then
      some fun c =>
        if slot.isSome then .error ⟨"duplicate field `" ++ name ++ "`", behindKey c⟩
        else do
          let c ← skipColon c
          let (a, c) ← codec.read c
          return ((some a, slots), c)
    else (more.fill? slots key).map fun read c => (read c).map fun (slots, c) => ((slot, slots), c)

/-- The record, if all that must not be missing has been read; else the name of the first member that is missing. -/
def finish : {ts : List Type} → Members ts → Slots ts → Except String (Row ts)
  | _, nil, _ => .ok ()
  | _, cons name _ ifMissing more, (slot, slots) =>
    match slot.or ifMissing with
    | none => .error name
    | some a => (more.finish slots).map (a, ·)

/-- The place behind the next key of an object; none if there is no further one. -/
def nextKey? (first : Bool) (c : Cursor) : Except Fault (Option (String × Cursor)) :=
  let c := skipBlanks c
  let key (c : Cursor) : Except Fault (Option (String × Cursor)) :=
    (readQuoted c.next).map fun (s, c) => some (.ofList s, c)
  match c.rest with
  | [] => .error ⟨endInObject, c.byteOn⟩
  | '\x7d' :: _ => .ok none
  | x :: _ =>
    if first then if x = '"' then key c else .error ⟨keyMustBeString, c.byteOn⟩
    else if x = ',' then
      let c := skipBlanks c.next
      match c.rest with
      | [] => .error ⟨endInValue, c.byteOn⟩
      | '"' :: _ => key c
      | '\x7d' :: _ => .error ⟨trailingComma, c.byteOn⟩
      | _ => .error ⟨keyMustBeString, c.byteOn⟩
    else .error ⟨Bracket.object.expectedEnd, c.byteOn⟩

/-- A member that is not asked for, from behind its key. -/
def skipMember {ts : List Type} (slots : Slots ts) : Reader (Slots ts) := fun c =>
  ((skipColon c).bind skip).map (slots, ·)

/-- The members of an object, up to its end. Members with other names are skipped. Every member takes a character. -/
def readMembers {ts : List Type} (ms : Members ts) : Nat → Bool → Slots ts → Reader (Slots ts)
  | 0, _, _, c => .error ⟨endInObject, c.toPosition⟩
  | fuel + 1, first, slots, c => do
    match ← nextKey? first c with
    | none => return (slots, skipBlanks c)
    | some (key, c) =>
      let (slots, c) ← ((ms.fill? slots key).getD (skipMember slots)) c
      readMembers ms fuel false slots c

/-- The items of an array as members. The missing ones at the end are given as far as they need not be there; else
`tooShort` says what is wrong with the number of items. -/
def readItems (tooShort : Nat → String) :
    {ts : List Type} → Members ts → Nat → Reader (Row ts)
  | _, nil, _, c => .ok ((), c)
  | _, cons _ codec ifMissing more, index, c => do
    match ← nextItem? (index = 0) c with
    | none =>
      match ifMissing with
      | none => throw ⟨tooShort index, (skipBlanks c).next.toPosition⟩
      | some a =>
        let (row, c) ← more.readItems tooShort index c
        return ((a, row), c)
    | some c =>
      let (a, c) ← codec.read c
      let (row, c) ← more.readItems tooShort (index + 1) c
      return ((a, row), c)

end Members

/-- What is wrong with an array of too few items for a record. -/
def wrongLength (expected : String) (size n : Nat) : String :=
  "invalid length " ++ toString n ++ ", expected " ++ expected ++ " with " ++ toString size ++
    (if size = 1 then " element" else " elements")

def readRow {ts : List Type} (expected : String) (ms : Members ts) : Reader (Row ts) := fun c =>
  let c := skipBlanks c
  match c.rest with
  | '\x7b' :: _ => do
    let (slots, c) ← ms.readMembers (c.rest.length + 1) true ms.noSlots c.next
    match ms.finish slots with
    | .ok row => return (row, c.next)
    | .error name => throw ⟨"missing field `" ++ name ++ "`", c.next.toPosition⟩
  | '[' :: _ => do
    let (row, c) ← ms.readItems (wrongLength expected ms.size) 0 c.next
    let c ← closeList c
    return (row, c)
  | _ => .error (unexpected c expected)

/-- A record by the row of its members. -/
def recordCodec {α : Type} {ts : List Type} (name : String) (ms : Members ts) (toRow : α → Row ts)
    (ofRow : Row ts → α) : Codec α where
  encode a := .object (ms.encode (toRow a))
  read c := (readRow ("struct " ++ name) ms c).map fun (row, c) => (ofRow row, c)

/-! ### Whole texts -/

namespace Codec

variable {α : Type}

/-- A value as a text without blanks. -/
def write (codec : Codec α) (a : α) : List Char :=
  (codec.encode a).compact

/-- The value that a text writes. Behind it only blanks may stand. -/
def decode (codec : Codec α) (text : List Char) : Except Fault α :=
  (codec.read (.start text)).bind fun (a, c) =>
    let c := skipBlanks c
    if c.atEnd then .ok a else .error ⟨trailingCharacters, c.byteOn⟩

end Codec

end CodeAudit.Json
