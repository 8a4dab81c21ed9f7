/-!
What can be wrong with a function, and sets of that. A set is known by what it has; its members are always listed in
one fixed order.
-/
namespace CodeAudit

inductive Pattern where
  | globalVariable
  | debugPrint
  | longLine
  | deepNesting
  | complexConditionals
deriving DecidableEq

namespace Pattern

/-- All patterns, in the order in which they are listed. -/
def all : List Pattern :=
  [globalVariable, debugPrint, longLine, deepNesting, complexConditionals]

theorem mem_all (p : Pattern) : p ∈ all := by
  cases p <;> decide

def name : Pattern → String
  | globalVariable => "global_variable"
  | debugPrint => "debug_print"
  | longLine => "long_line"
  | deepNesting => "deep_nesting"
  | complexConditionals => "complex_conditionals"

/-- The pattern with a name. -/
def ofName? (name : String) : Option Pattern :=
  all.find? (·.name = name)

end Pattern

@[ext]
structure PatternSet where
  has : Pattern → Bool

namespace PatternSet

/-- The members of a set, each once. -/
def toList (s : PatternSet) : List Pattern :=
  Pattern.all.filter s.has

/-- The set of what stands in a list, however often. -/
def ofList (ps : List Pattern) : PatternSet :=
  ⟨fun p => ps.contains p⟩

def empty : PatternSet :=
  ofList []

def isEmpty (s : PatternSet) : Bool :=
  s.toList.isEmpty

@[simp] theorem has_ofList (ps : List Pattern) (p : Pattern) : (ofList ps).has p = ps.contains p := rfl

@[simp] theorem mem_toList {s : PatternSet} {p : Pattern} : p ∈ s.toList ↔ s.has p = true := by
  simp [toList, Pattern.mem_all]

theorem ofList_toList (s : PatternSet) : ofList s.toList = s := by
  ext p
  cases h : s.has p <;> simp [h]

theorem toList_injective {s t : PatternSet} (h : s.toList = t.toList) : s = t := by
  rw [← ofList_toList s, h, ofList_toList]

instance : DecidableEq PatternSet := fun s t =>
  if h : s.toList = t.toList then isTrue (toList_injective h) else isFalse fun e => h (e ▸ rfl)

end PatternSet

end CodeAudit
