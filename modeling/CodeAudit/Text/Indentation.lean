import CodeAudit.Text.Line

/-!
Moving text to the left.
-/
namespace CodeAudit.Text

def isIndent (c : Char) : Bool :=
  c = ' ' || c = '\t'

/-- A line without at most `n` spaces and tabs at its start. -/
def outdent : Nat → List Char → List Char
  | n + 1, c :: rest => if isIndent c then outdent n rest else c :: rest
  | _, line => line

/-- Takes at most `n` spaces and tabs from the start of each line. Every line of the result ends with a line feed. -/
def dedent (n : Nat) (text : List Char) : List Char :=
  unlines ((lines text).map (outdent n))

example : dedent 4 [' ', ' ', 'x', '\r', '\n', ' ', '\t', ' ', ' ', ' ', 'y'] =
    ['x', '\n', ' ', 'y', '\n'] := by decide

end CodeAudit.Text
