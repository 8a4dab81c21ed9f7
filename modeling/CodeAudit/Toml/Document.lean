import CodeAudit.Toml.Value

/-!
Whole documents. Keys with values belong to the table whose header was last. That table joins the document when the
next header comes; then it stands behind what was there before.
-/
namespace CodeAudit.Toml

open Reader

/-- The path in a header, with the key that it ends with; a repeated header makes one more table each time. -/
structure Header where
  path : List Key
  key : Key
  repeated : Bool

/-- A document as far as it has been read: what is complete, the table that takes the next keys, and its header. The
table of the document itself has none. -/
structure State where
  root : Table := {}
  current : Table := {}
  header : Option Header := none

namespace State

/-- A key as it is written where needed: without quotes if it has none but plain characters, else in double quotes if
nothing in it must be escaped, else in single ones if that is possible. -/
def keyText (name : String) : String :=
  let cs := name.toList
  let isControl (c : Char) : Bool := c.toNat < 0x20 && c ≠ '\t' || c.toNat = 0x7F
  if !cs.isEmpty && cs.all isBareChar then name
  else if cs.all fun c => c ≠ '"' && c ≠ '\\' && c ≠ '\t' && !isControl c then "\"" ++ name ++ "\""
  else if cs.all fun c => c ≠ '\'' && !isControl c then "'" ++ name ++ "'"
  else "\"" ++ .ofList (cs.flatMap escape) ++ "\""
where
  escape (c : Char) : List Char :=
    match c with
    | '\x08' => ['\\', 'b']
    | '\t' => ['\\', 't']
    | '\n' => ['\\', 'n']
    | '\x0c' => ['\\', 'f']
    | '\r' => ['\\', 'r']
    | '"' => ['\\', '"']
    | '\\' => ['\\', '\\']
    | c =>
      if c.toNat < 0x20 || c.toNat = 0x7F then
        let ds := (Nat.toDigits 16 c.toNat).map Char.toUpper
        '\\' :: 'u' :: List.replicate (4 - ds.length) '0' ++ ds
      else [c]

/-- The header names something that is there already. -/
def taken (h : Header) : Problem :=
  .duplicateKeyIn (keyText h.key.name) (h.path.map Key.name)

/-- Puts the current table into the document. -/
def close (s : State) : Except Problem Table :=
  match s.header with
  | none => .ok s.current
  | some h =>
    (s.root.changeAt false false (fun t =>
      let item (old : Option Item) : Except Problem Item :=
        match old, h.repeated with
        | some (.tables items), true => .ok (.tables (items ++ [s.current.toItem]))
        | none, true => .ok (.tables [s.current.toItem])
        | none, false => .ok s.current.toItem
        | some _, _ => .error (taken h)
      (item (t.entries.find? h.key.name)).map fun i => ((), { t with entries := t.entries.put h.key i }))
      [] h.path).map (·.2)

/-- Looks up what a header names, in the table to which its path leads. A table that is only implicit so far is taken
out and goes on under the header. -/
def opened (h : Header) : Table.Change Entries := fun t =>
  match t.entries.find? h.key.name, h.repeated with
  | none, _ => .ok ([], t)
  | some (.tables _), true => .ok ([], t)
  | some (.table info es), false =>
    if info.implicit && !info.dotted then .ok (es, { t with entries := t.entries.erase h.key.name })
    else .error (taken h)
  | some _, _ => .error (taken h)

/-- A header ends the current table and begins the next one. -/
def onHeader (s : State) (h : Header) (span : Span) : Except Problem State := do
  let root ← s.close
  let (kept, root) ← root.changeAt false false (opened h) [] h.path
  return { root, current := ⟨{ span := some span }, kept⟩, header := some h }

/-- A key with its value goes into the current table, which then reaches to the end of the value. -/
def onKeyAndValue (s : State) (ks : List Key) (v : Item) : Except Problem State :=
  match ks.getLast? with
  | none => .ok s
  | some k =>
    let names := (s.header.map fun h => (h.path ++ [h.key]).map Key.name).getD []
    let info := s.current.info
    let span :=
      match info.span, v.span? with
      | some a, some b => some ⟨a.start, b.stop⟩
      | old, _ => old
    let current : Table := { s.current with info := { info with span } }
    (current.insertAt false (.duplicateKeyIn · names) ks.dropLast k v).map fun t => { s with current := t }

end State

/-! ### Lines -/

/-- The path in single or double brackets, whether there are two, and where they stand. -/
def header : Reader (List Key × Bool × Span) := fun c =>
  let repeated := c.rest.take 2 = ['[', '[']
  let opening := if repeated then ['[', '['] else ['[']
  let closing := if repeated then [']', ']'] else [']']
  if c.rest.drop 1 = [] then fail c
  else do
    let start := c.offset
    let (_, c) ← exactly opening c
    let (ks, c) ← hard key c
    let (_, c) ← hard (expecting ["`.`", "`" ++ .ofList closing ++ "`"] (exactly closing)) c
    let stop := c.offset
    let (_, c) ← hard lineRest c
    return ((ks, repeated, ⟨start, stop⟩), c)

def headerLine (s : State) : Reader State :=
  labelled "table header" <| checked header fun (ks, repeated, span) =>
    match ks.getLast? with
    | none => .ok s
    | some k => s.onHeader ⟨ks.dropLast, k, repeated⟩ span

def commentLine : Reader Unit := fun c => do
  let (_, c) ← comment c
  lineEnd c

/-- One line of a document. -/
def line (s : State) : Reader State := fun c =>
  match c.rest with
  | [] => fail c
  | x :: _ =>
    if x = '#' then (hard commentLine c).map fun (_, c) => (s, c)
    else if x = '[' then hard (headerLine s) c
    else if x = '\n' || x = '\r' then (newline c).map fun (_, c) => (s, c)
    else hard (checked (keyAndValue value lineRest) fun (ks, v) => s.onKeyAndValue ks v) c

/-- All lines; every line takes a character. -/
def linesFrom : Nat → State → Reader State
  | 0, s, c => .ok (s, c)
  | fuel + 1, s, c => do
    match ← optional (line s) c with
    | (none, c) => return (s, c)
    | (some s, c) =>
      let (_, c) ← blanks c
      linesFrom fuel s c

/-- A document up to the end of its text. A mark of the byte order at its start does not count. -/
def document : Reader Table := fun c => do
  let c := if c.rest.head? = some '\uFEFF' then c.next else c
  let (_, c) ← blanks c
  let (s, c) ← linesFrom (c.rest.length + 1) {} c
  if c.atEnd then
    match s.close with
    | .ok t => return (t, c)
    | .error p => throw { offset := c.offset, problem := some p }
  else fail c

/-- The part of a text that shows where the reading stopped: one character, or nothing at the end. -/
def spanAt (text : List Char) (offset : Nat) : Span :=
  match (Fault.splitAt offset text).2 with
  | c :: _ => ⟨offset, offset + c.utf8Size⟩
  | [] => ⟨offset, offset⟩

/-- The table that a text writes. -/
def parse (text : List Char) : Except Fault Table :=
  match document (.start text) with
  | .ok (t, _) => .ok t
  | .error s => .error ⟨text, spanAt text s.offset, s.message⟩

end CodeAudit.Toml
