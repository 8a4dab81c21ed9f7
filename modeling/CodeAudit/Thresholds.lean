/-!
The limits of what is still accepted. A value equal to its limit is.
-/
namespace CodeAudit

structure Thresholds where
  maxNestingDepth : Nat := 3
  maxConditionals : Nat := 5
  maxLineLength : Nat := 120
deriving DecidableEq

end CodeAudit
