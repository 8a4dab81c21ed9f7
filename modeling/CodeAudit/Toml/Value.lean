import CodeAudit.Toml.Moment
import CodeAudit.Toml.Table

/-!
Keys and values. Arrays and inline tables lie within each other to a limited depth.
-/
namespace CodeAudit.Toml

open Reader

/-- Neither as many parts of a key nor as many brackets within each other are accepted. -/
def depthLimit : Nat := 80

def isBareChar (c : Char) : Bool :=
  c.isAlphanum || c = '-' || c = '_'

/-- One part of a key. -/
def simpleKey : Reader Key := fun c => do
  let (name, rest) ←
    match c.rest with
    | '"' :: _ => basicString c
    | '\'' :: _ => literalString c
    | _ => many1 isBareChar c
  return (⟨.ofList name, ⟨c.offset, rest.offset⟩⟩, rest)

/-- The parts of a key with points between them. -/
def key : Reader (List Key) :=
  checked
    (labelled "key" <| separated (fun c => do
      let (_, c) ← blanks c
      let (k, c) ← simpleKey c
      let (_, c) ← blanks c
      return (k, c)) '.')
    fun ks => if depthLimit ≤ ks.length then .error .tooDeep else .ok ks

def equals : Reader Unit := expecting ["`.`", "`=`"] fun c => do
  let (_, c) ← char '=' c
  return ((), c)

/-- A key and the value behind it, and what ends them. -/
def keyAndValue {α : Type} (value : Reader α) (finish : Reader Unit) : Reader (List Key × α) := fun c => do
  let (ks, c) ← key c
  let (v, c) ← hard (fun c => do
    let (_, c) ← equals c
    let (_, c) ← blanks c
    let (v, c) ← value c
    let (_, c) ← finish c
    return (v, c)) c
  return ((ks, v), c)

/-- An entry for each key with its value; the keys are shorter by their last part. -/
def insertAll (t : Table) : List (List Key × Item) → Except Problem Table
  | [] => .ok t
  | (ks, v) :: rest =>
    match ks.getLast? with
    | none => insertAll t rest
    | some k => (t.insertAt true .duplicateKey ks.dropLast k v).bind fun t => insertAll t rest

def arrayEnd : Reader Unit := labelled "array" <| expecting ["`]`"] fun c => do
  let (_, c) ← char ']' c
  return ((), c)

def inlineTableEnd : Reader Unit := labelled "inline table" <| expecting ["`\x7d`"] fun c => do
  let (_, c) ← char '\x7d' c
  return ((), c)

/-- An array of values, which may stand on several lines. Behind the last value there may be a comma. -/
def array (value : Reader Item) : Reader Item := fun start => do
  let (_, c) ← char '[' start
  let (items, c) ← hard (fun c => do
    let (items, c) ← optional (fun c => do
      let (items, c) ← separated (fun c => do
        let (_, c) ← space c
        let (v, c) ← value c
        let (_, c) ← space c
        return (v, c)) ',' c
      let (_, c) ← optional (char ',') c
      return (items, c)) c
    let (_, c) ← space c
    return (items.getD [], c)) c
  let (_, c) ← hard arrayEnd c
  return (.array items ⟨start.offset, c.offset⟩, c)

def blankEnd : Reader Unit := fun c => do
  let (_, c) ← blanks c
  return ((), c)

/-- The keys in the braces of an inline table with their values. -/
def inlineEntries (value : Reader Item) : Reader (List (List Key × Item)) := fun c => do
  let (entries, c) ← optional (separated (keyAndValue value blankEnd) ',') c
  let (_, c) ← blanks c
  return (entries.getD [], c)

/-- An inline table, which stands on one line. -/
def inlineTable (value : Reader Item) : Reader Item := fun start => do
  let (_, c) ← char '\x7b' start
  let (t, c) ← hard (checked (inlineEntries value) (insertAll { info := { inline := true } })) c
  let (_, c) ← hard inlineTableEnd c
  return (.table { t.info with span := some ⟨start.offset, c.offset⟩ } t.entries, c)

/-- What a value may begin with, as far as nothing else is certain. -/
def expectingString {α : Type} (r : Reader α) : Reader α :=
  labelled "string" (expecting ["`\"`", "`'`"] r)

/-- A number, a date or a time. -/
def numberOrMoment : Reader Scalar :=
  orElse (fun c => do
    let (_, c) ← moment c
    return (.datetime, c)) <|
  orElse (fun c => do
    let (x, c) ← float c
    return (.float x, c)) fun c => do
    let (n, c) ← integer c
    return (.integer n, c)

def scalar : Reader Scalar := fun c =>
  match c.rest with
  | [] => fail c
  | x :: _ =>
    if x = '"' || x = '\'' then (string c).map fun (s, c) => (.string (.ofList s), c)
    else if x = '+' || x = '-' || x.isDigit then numberOrMoment c
    else if x = '_' then (expecting ["leading digit"] integer c).map fun (n, c) => (.integer n, c)
    else if x = '.' then (expecting ["leading digit"] float c).map fun (x, c) => (.float x, c)
    else if x = 't' then (expectingString (hard (exactly "true".toList)) c).map fun (_, c) => (.boolean true, c)
    else if x = 'f' then (expectingString (hard (exactly "false".toList)) c).map fun (_, c) => (.boolean false, c)
    else if x = 'i' then (expectingString infinity c).map fun (x, c) => (.float x, c)
    else if x = 'n' then (expectingString notANumber c).map fun (x, c) => (.float x, c)
    else expectingString fail c

/-- A value in which brackets lie less than `depth` deep. -/
def valueWithin : (depth : Nat) → Reader Item
  | 0, c =>
    if c.rest.head? = some '[' || c.rest.head? = some '\x7b' then
      .error { offset := c.offset, hard := true, problem := some .tooDeep }
    else (scalar c).map fun (s, r) => (.scalar s ⟨c.offset, r.offset⟩, r)
  | depth + 1, c =>
    if c.rest.head? = some '[' then array (valueWithin depth) c
    else if c.rest.head? = some '\x7b' then inlineTable (valueWithin depth) c
    else (scalar c).map fun (s, r) => (.scalar s ⟨c.offset, r.offset⟩, r)

def value : Reader Item :=
  valueWithin (depthLimit - 1)

end CodeAudit.Toml
