import CodeAudit.Decimal.Written
import CodeAudit.Settings.Basic
import CodeAudit.Text.Quoted
import CodeAudit.Toml.Document

/-!
Settings in a TOML text. What is missing has its default and what is unknown does not matter, but a known setting must
be of its type.
-/
namespace CodeAudit

namespace Toml

/-- What is wrong with a value, and the part that shows it, once that is known. -/
structure Mismatch where
  span : Option Span := none
  message : String

/-- Shows a mismatch by this part unless another one shows it already. -/
def within {α : Type} (span : Option Span) (r : Except Mismatch α) : Except Mismatch α :=
  r.mapError fun m => { m with span := m.span.or span }

/-- Floating point numbers are never written with a power of ten. -/
def plainForm : DecimalForm where
  positional _ := true

def FloatValue.render : FloatValue → List Char
  | finite negative x => x.render plainForm negative
  | infinite negative => (if negative then "-inf" else "inf").toList
  | nan => "NaN".toList

/-- What an item is, and which one if it is short. -/
def Item.description : Item → String
  | .scalar (.string s) _ => "string " ++ .ofList (Text.quoted s.toList)
  | .scalar (.integer n) _ => "integer `" ++ toString n ++ "`"
  | .scalar (.float x) _ => "floating point `" ++ .ofList x.render ++ "`"
  | .scalar (.boolean b) _ => "boolean `" ++ toString b ++ "`"
  | .scalar .datetime _ | .table .. => "map"
  | .array .. | .tables _ => "sequence"

def wrongType {α : Type} (item : Item) (expected : String) : Except Mismatch α :=
  .error { span := item.span?, message := "invalid type: " ++ item.description ++ ", expected " ++ expected }

/-- A number that is not negative. -/
def readWord (item : Item) : Except Mismatch Nat :=
  match item with
  | .scalar (.integer n) span =>
    if n < 0 then .error { span, message := "invalid value: " ++ item.description ++ ", expected usize" }
    else .ok n.toNat
  | _ => wrongType item "usize"

def readBool (item : Item) : Except Mismatch Bool :=
  match item with
  | .scalar (.boolean b) _ => .ok b
  | _ => wrongType item "a boolean"

def readPath (item : Item) : Except Mismatch String :=
  match item with
  | .scalar (.string s) _ => .ok s
  | _ => wrongType item "path string"

/-- The members of a record by their names; each changes the record by what it reads. -/
abbrev Members (α : Type) := List (String × (α → Item → Except Mismatch α))

/-- Changes a record by the entries of a table or, in the order of the members, by the items of an array. A date has
no such members. -/
def readRecord {α : Type} (name : String) (members : Members α) (record : α) (item : Item) : Except Mismatch α :=
  within item.span? <|
    let inOrder (items : List Item) : Except Mismatch α :=
      (members.zip items).foldlM (fun record (m, i) => m.2 record i) record
    match item with
    | .table _ entries =>
      entries.foldlM (fun record (k, i) =>
        match members.lookup k.name with
        | some read => within (i.span?.or (some k.span)) (read record i)
        | none => .ok record) record
    | .array items _ => inOrder items
    | .tables items => inOrder items
    | .scalar .datetime _ => .ok record
    | _ => wrongType item ("struct " ++ name)

end Toml

namespace Settings

open Toml

def thresholdMembers : Members Thresholds := [
  ("max_nesting_depth", fun t i => return { t with maxNestingDepth := ← readWord i }),
  ("max_conditionals", fun t i => return { t with maxConditionals := ← readWord i }),
  ("max_line_length", fun t i => return { t with maxLineLength := ← readWord i })]

def readThresholds : Item → Except Mismatch Thresholds :=
  readRecord "Thresholds" thresholdMembers {}

def auditMembers : Members AuditOptions := [
  ("verbose", fun o i => return { o with verbose := ← readBool i }),
  ("log_file", fun o i => return { o with logFile := some (← readPath i) }),
  ("cache_capacity", fun o i => return { o with cacheCapacity := ← readWord i }),
  ("reanalyze", fun o i => return { o with reanalyze := ← readBool i })]

def readAudit : Item → Except Mismatch AuditOptions :=
  readRecord "AuditConfig" auditMembers {}

def members : Members Settings := [
  ("audit", fun s i => return { s with audit := ← readAudit i }),
  ("thresholds", fun s i => return { s with thresholds := ← readThresholds i })]

def ofItem : Item → Except Mismatch Settings :=
  readRecord "Config" members {}

/-- The settings that a text makes. -/
def parse (text : List Char) : Except Fault Settings :=
  (Toml.parse text).bind fun t =>
    (ofItem t.toItem).mapError fun m => ⟨text, m.span.getD ⟨0, 0⟩, m.message⟩

end Settings

end CodeAudit
