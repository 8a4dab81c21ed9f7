import CodeAudit.Text.Cursor
import CodeAudit.Toml.Item

/-!
Reading with alternatives. What cannot be read stops the reading where it stands; a soft stop lets another alternative
try, a hard one does not. What is said about a stop comes from its place, from the innermost part that has a name, and
from what could have stood there.
-/
namespace CodeAudit.Toml

structure Stop where
  offset : Nat
  hard : Bool := false
  label : Option String := none
  expected : List String := []
  problem : Option Problem := none

namespace Stop

/-- The lines of a message about a stop. -/
def messageLines (s : Stop) : List String :=
  (s.label.map ("invalid " ++ ·)).toList ++
    (if s.expected.isEmpty then [] else ["expected " ++ ", ".intercalate s.expected]) ++
    (s.problem.map Problem.message).toList

def message (s : Stop) : String :=
  "\n".intercalate s.messageLines

end Stop

abbrev Reader (α : Type) := Cursor → Except Stop (α × Cursor)

namespace Reader

variable {α β : Type}

/-- Stops softly where the cursor stands. -/
def fail : Reader α := fun c =>
  .error { offset := c.offset }

/-- Stops for good. -/
def hard (r : Reader α) : Reader α := fun c =>
  (r c).mapError fun s => { s with hard := true }

/-- Names a part for the stops in it that lie in no part with a name. -/
def labelled (name : String) (r : Reader α) : Reader α := fun c =>
  (r c).mapError fun s => { s with label := s.label.or (some name) }

/-- Tells what could have stood where the reading stops. -/
def expecting (what : List String) (r : Reader α) : Reader α := fun c =>
  (r c).mapError fun s => { s with expected := s.expected ++ what }

/-- Tries a second alternative if the first one stops softly. -/
def orElse (r s : Reader α) : Reader α := fun c =>
  match r c with
  | .error e => if e.hard then .error e else s c
  | ok => ok

/-- Reads something or, if that stops softly, nothing. -/
def optional (r : Reader α) : Reader (Option α) := fun c =>
  match r c with
  | .ok (a, c) => .ok (some a, c)
  | .error e => if e.hard then .error e else .ok (none, c)

/-- Looks at what follows. Also a stop in that is seen from where the cursor stands. -/
def ahead (r : Reader α) : Reader Unit := fun c =>
  match r c with
  | .ok _ => .ok ((), c)
  | .error e => .error { e with offset := c.offset }

/-- Checks what has been read; a problem with it is seen where it begins. -/
def checked (r : Reader α) (check : α → Except Problem β) : Reader β := fun c =>
  match r c with
  | .error e => .error e
  | .ok (a, rest) =>
    match check a with
    | .ok b => .ok (b, rest)
    | .error p => .error { offset := c.offset, problem := some p }

/-- One character with a property. -/
def one (f : Char → Bool) : Reader Char := fun c =>
  match c.rest with
  | x :: _ => if f x then .ok (x, c.next) else fail c
  | [] => fail c

def char (x : Char) : Reader Char :=
  one (· = x)

/-- Exactly these characters. -/
def exactly (xs : List Char) : Reader Unit := fun c =>
  if xs.isPrefixOf c.rest then .ok ((), c.skip xs.length) else fail c

/-- The longest run of characters with a property. -/
def many (f : Char → Bool) : Reader (List Char) := fun c =>
  .ok (c.span f)

/-- The longest run of characters with a property, and at least one of them. -/
def many1 (f : Char → Bool) : Reader (List Char) := fun c =>
  let (cs, rest) := c.span f
  if cs.isEmpty then fail c else .ok (cs, rest)

/-- A number of characters with a property. -/
def exactCount (n : Nat) (f : Char → Bool) : Reader (List Char) := fun c =>
  let cs := c.rest.take n
  if cs.length = n && cs.all f then .ok (cs, c.skip n) else fail c

/-- As many parts as there are; every part takes a character. -/
def repeated (r : Reader α) : Reader (List α) := fun c =>
  go (c.rest.length + 1) c
where
  go : Nat → Reader (List α)
    | 0, c => .ok ([], c)
    | fuel + 1, c => do
      match ← optional r c with
      | (none, c) => return ([], c)
      | (some a, c) =>
        let (as, c) ← go fuel c
        return (a :: as, c)

/-- A part and further ones, each behind a separator. A separator without a part behind it is left where it is. -/
def separated (r : Reader α) (separator : Char) : Reader (List α) := fun c => do
  let (a, c) ← r c
  let (as, c) ← repeated (fun c => do
    let (_, c) ← char separator c
    r c) c
  return (a :: as, c)

end Reader

/-! ### Blanks, line ends and comments -/

open Reader

def isBlank (c : Char) : Bool :=
  c = ' ' || c = '\t'

def isNonAscii (c : Char) : Bool :=
  0x80 ≤ c.toNat

/-- What may stand in a comment. -/
def isCommentChar (c : Char) : Bool :=
  c = '\t' || (0x20 ≤ c.toNat && c.toNat ≤ 0x7E) || isNonAscii c

def blanks : Reader (List Char) :=
  many isBlank

def newline : Reader Unit := fun c =>
  match c.rest with
  | '\n' :: _ => .ok ((), c.next)
  | '\r' :: '\n' :: _ => .ok ((), c.next.next)
  | '\r' :: _ => .error { offset := c.next.offset }
  | _ => fail c

def lineEnd : Reader Unit := fun c =>
  match newline c with
  | .ok r => .ok r
  | .error _ => if c.atEnd then .ok ((), c) else fail c

def comment : Reader Unit := fun c => do
  let (_, c) ← char '#' c
  let (_, c) ← many isCommentChar c
  return ((), c)

/-- The rest of a line behind its contents. -/
def lineRest : Reader Unit := expecting ["newline", "`#`"] fun c => do
  let (_, c) ← blanks c
  let (_, c) ← optional comment c
  lineEnd c

/-- Blanks, line ends and comments, as many as there are. -/
def space : Reader Unit := fun c => do
  let (_, c) ← repeated (orElse (fun c => do
    let (_, c) ← many1 isBlank c
    return ((), c)) (orElse newline comment)) c
  return ((), c)

end CodeAudit.Toml
