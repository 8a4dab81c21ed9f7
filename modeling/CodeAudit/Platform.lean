import CodeAudit.Report

/-!
Facts about the program and the machine on which it runs.
-/
namespace CodeAudit

structure Platform where
  version : String
  implementation : String
  system : String
  architecture : String
  integerBits : Nat
  encoding : String
deriving DecidableEq

namespace Platform

/-- The largest native integer has 63 bits. -/
def current : Platform where
  version := "0.1.0"
  implementation := "rust"
  system := "linux"
  architecture := "x86_64"
  integerBits := 63
  encoding := "utf-8"

/-- The facts with their names, in the order in which they are shown. -/
def entries (p : Platform) : List (String × String) :=
  [("runtime_version", p.version), ("runtime_implementation", p.implementation), ("platform", p.system),
    ("arch", p.architecture), ("max_int_bits", toString p.integerBits), ("default_encoding", p.encoding)]

end Platform

/-- All that is known about an audited function. -/
structure Bundle where
  complexity : Nat
  report : Report
  platform : Platform
deriving DecidableEq

def Bundle.of (a : Analysis) (p : Platform) : Bundle :=
  ⟨a.complexity, a.report, p⟩

end CodeAudit
