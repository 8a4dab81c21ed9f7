import CodeAudit.Pattern.Basic
import CodeAudit.Text.Line

/-!
Patterns that show in a single line. The blanks around a line do not count, and of several patterns in one line only
the first is found.
-/
namespace CodeAudit.Pattern

/-- Declares a global variable, as far as the letters tell. -/
def declaresGlobal (line : List Char) : Bool :=
  Text.holds "global ".toList line

/-- Prints something and speaks of debugging anywhere, be it in a comment. -/
def printsDebug (line : List Char) : Bool :=
  Text.holds "print(".toList line && Text.holds "debug".toList (Text.lower line)

/-- The pattern of a line, where more than `longest` characters are too many. -/
def ofLine? (longest : Nat) (line : List Char) : Option Pattern :=
  let line := Text.trim line
  if declaresGlobal line then some globalVariable
  else if printsDebug line then some debugPrint
  else if longest < line.length then some longLine
  else none

end CodeAudit.Pattern
