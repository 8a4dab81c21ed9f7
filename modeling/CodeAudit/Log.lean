import CodeAudit.Files.Basic

/-!
Logs to which lines are only ever added. Each record takes one write.
-/
namespace CodeAudit.Log

/-- A line with exactly one line feed at its end. -/
def record (line : List Char) : List Char :=
  (line.reverse.dropWhile (· = '\n')).reverse ++ ['\n']

/-- Adds a line to the log in a file. -/
def append (fs : Files) (path : String) (line : List Char) : Except FileFault Files :=
  fs.append path (record line)

example : record ['a', '\n', 'b', '\n', '\n'] = ['a', '\n', 'b', '\n'] := by decide

end CodeAudit.Log
