import CodeAudit.Toml.Item

/-!
Putting entries into tables. Paths through tables make the tables that are missing. A table that was written once is
closed: neither a header nor a dotted key opens it again.
-/
namespace CodeAudit.Toml

abbrev Entries := List (Key × Item)

namespace Entries

def find? (es : Entries) (name : String) : Option Item :=
  (List.find? (fun e : Key × Item => e.1.name = name) es).map (·.2)

/-- Gives an item to a key: in the place of the one that the key has, or behind all others. -/
def put : Entries → Key → Item → Entries
  | [], k, i => [(k, i)]
  | (k', i') :: rest, k, i => if k'.name = k.name then (k', i) :: rest else (k', i') :: put rest k i

def erase (es : Entries) (name : String) : Entries :=
  es.filter (·.1.name ≠ name)

end Entries

/-- A table as its entries, with what is known about it. -/
structure Table where
  info : TableInfo := {}
  entries : Entries := []

namespace Table

def toItem (t : Table) : Item :=
  .table t.info t.entries

/-- A change of a table that also tells something about it. -/
abbrev Change (α : Type) := Table → Except Problem (α × Table)

variable {α : Type}

/-- Changes the last of some tables. -/
def changeLast (f : Change α) (none : Problem) : List Item → Except Problem (α × List Item)
  | [] => .error none
  | [.table info es] => (f ⟨info, es⟩).map fun (a, t) => (a, [t.toItem])
  | i :: rest => (changeLast f none rest).map fun (a, rest) => (a, i :: rest)

/-- Changes the table to which a path leads. Of tables under one header, the path leads through the last. The path up
to here is `walked`. -/
def changeAt (dotted inline : Bool) (f : Change α) : (walked : List String) → (path : List Key) → Change α
  | _, [], t => f t
  | walked, k :: path, t =>
    let walked := walked ++ [k.name]
    let inner := changeAt dotted inline f walked path
    let item := (t.entries.find? k.name).getD (.table { inline, implicit := true, dotted } [])
    let changed : Except Problem (α × Item) :=
      match item with
      | .table info es =>
        if info.inline ≠ inline then .error (.notATable walked item.kind)
        else if dotted && !info.implicit then .error (.duplicateKey k.name)
        else (inner ⟨info, es⟩).map fun (a, t) => (a, t.toItem)
      | .tables items => (changeLast inner (.notATable walked item.kind) items).map fun (a, items) => (a, .tables items)
      | _ => .error (.notATable walked item.kind)
    changed.map fun (a, item) => (a, { t with entries := t.entries.put k item })

/-- Adds an entry under a key in the table to which the keys before it lead; `taken` is the problem with a key that has
an item already. -/
def insertAt (inline : Bool) (taken : String → Problem) (path : List Key) (k : Key) (item : Item) (t : Table) :
    Except Problem Table :=
  (changeAt (!path.isEmpty) inline (fun t =>
    if t.info.dotted = path.isEmpty then .error (.duplicateKey k.name)
    else if (t.entries.find? k.name).isSome then .error (taken k.name)
    else .ok ((), { t with entries := t.entries.put k item })) [] path t).map (·.2)

end Table

end CodeAudit.Toml
