import CodeAudit.Decimal.Double
import CodeAudit.Toml.Fault

/-!
What a TOML document holds. Tables keep their entries in the order in which they were made.
-/
namespace CodeAudit.Toml

/-- A floating point number. -/
inductive FloatValue where
  | finite (negative : Bool) (x : Double)
  | infinite (negative : Bool)
  | nan
deriving DecidableEq

/-- A value without parts. Dates and times are only told from other values. -/
inductive Scalar where
  | string (s : String)
  | integer (n : Int)
  | float (x : FloatValue)
  | boolean (b : Bool)
  | datetime
deriving DecidableEq

structure Key where
  name : String
  span : Span

/-- How a table came to be. A table is implicit if only a longer path through it was written, dotted if it was written
in a key rather than in a header, and inline if it stands in braces. -/
structure TableInfo where
  inline : Bool := false
  implicit : Bool := false
  dotted : Bool := false
  span : Option Span := none

inductive Item where
  | scalar (s : Scalar) (span : Span)
  | array (items : List Item) (span : Span)
  | table (info : TableInfo) (entries : List (Key × Item))
  /-- Tables under one and the same header, the first one in front. -/
  | tables (items : List Item)

namespace Item

/-- The first byte of the first and the last byte of the last of some parts. -/
def spanOf (items : List (Option Span)) : Option Span :=
  match items.head?, items.getLast? with
  | some (some a), some (some b) => some ⟨a.start, b.stop⟩
  | _, _ => none

mutual

def span? : Item → Option Span
  | scalar _ span => some span
  | array _ span => some span
  | table info _ => info.span
  | tables items => spanOf (spans items)

def spans : List Item → List (Option Span)
  | [] => []
  | i :: rest => span? i :: spans rest

end

/-- What an item is called. -/
def kind : Item → String
  | scalar (.string _) _ => "string"
  | scalar (.integer _) _ => "integer"
  | scalar (.float _) _ => "float"
  | scalar (.boolean _) _ => "boolean"
  | scalar .datetime _ => "datetime"
  | array .. => "array"
  | table info _ => if info.inline then "inline table" else "table"
  | tables _ => "array of tables"

end Item

end CodeAudit.Toml
