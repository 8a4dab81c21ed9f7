import CodeAudit.Data.Total

/-!
Faults of TOML texts and how they are shown: the line in which a fault lies, marked under the place, and a message.
-/
namespace CodeAudit.Toml

/-- Bytes of a text from `start` up to, but without, `stop`. -/
structure Span where
  start : Nat
  stop : Nat
deriving DecidableEq

/-- What is wrong with a part that is well formed by itself. -/
inductive Problem where
  /-- The key is taken already. -/
  | duplicateKey (key : String)
  /-- The key is taken already in the table with the given path. -/
  | duplicateKeyIn (key : String) (table : List String)
  /-- A key leads through something that is no table. -/
  | notATable (path : List String) (kind : String)
  | outOfRange
  | tooLarge
  | tooSmall
  | tooDeep
deriving DecidableEq

namespace Problem

def message : Problem → String
  | duplicateKey key => "duplicate key `" ++ key ++ "`"
  | duplicateKeyIn key [] => "duplicate key `" ++ key ++ "` in document root"
  | duplicateKeyIn key table => "duplicate key `" ++ key ++ "` in table `" ++ ".".intercalate table ++ "`"
  | notATable path kind =>
    "dotted key `" ++ ".".intercalate path ++ "` attempted to extend non-table type (" ++ kind ++ ")"
  | outOfRange => "value is out of range"
  | tooLarge => "number too large to fit in target type"
  | tooSmall => "number too small to fit in target type"
  | tooDeep => "recursion limit exceeded"

end Problem

/-- A fault in a text: what is said about it and the part that shows it. -/
structure Fault where
  text : List Char
  span : Span
  message : String
deriving DecidableEq

namespace Fault

/-- Characters before and from a byte on. -/
def splitAt (n : Nat) : List Char → List Char × List Char
  | [] => ([], [])
  | c :: rest =>
    if n = 0 then ([], c :: rest)
    else
      let (a, b) := splitAt (n - c.utf8Size) rest
      (c :: a, b)

/-- What stands behind the last line feed of a text. -/
def lastLine (cs : List Char) : List Char :=
  (cs.reverse.takeWhile (· ≠ '\n')).reverse

/-- Row and column of a byte, both counted from zero. Columns count characters, but bytes where the character itself
has several. The end of a text lies one column behind its last character, even if that is a line feed. -/
def rowAndColumn (text : List Char) (offset : Nat) : Nat × Nat :=
  match splitAt offset text with
  | (before, c :: _) =>
    let line := lastLine before
    (before.count '\n', if c.utf8Size = 1 then line.length else total (line.map Char.utf8Size))
  | (before, []) =>
    if before.isEmpty then (0, 0)
    else
      let before := before.dropLast
      (before.count '\n', (lastLine before).length + 1)

/-- The line with a number, without its line feed. -/
def nthLine : Nat → List Char → List Char
  | 0, cs => cs.takeWhile (· ≠ '\n')
  | n + 1, cs => nthLine n ((cs.dropWhile (· ≠ '\n')).drop 1)

def blanks (n : Nat) : List Char :=
  List.replicate n ' '

/-- The form in which a fault is shown. The marks do not reach beyond the line, but there is always one. -/
def render (f : Fault) : List Char :=
  let (row, column) := rowAndColumn f.text f.span.start
  let number := (toString (row + 1)).toList
  let margin := blanks (number.length + 1) ++ ['|']
  let line := nthLine row f.text
  let marks := min (f.span.stop - f.span.start) (total (line.map Char.utf8Size) - column)
  "TOML parse error at line ".toList ++ number ++ ", column ".toList ++ (toString (column + 1)).toList ++ '\n' ::
    margin ++ '\n' ::
    number ++ " | ".toList ++ line ++ '\n' ::
    margin ++ blanks (column + 1) ++ List.replicate (max marks 1) '^' ++ '\n' ::
    f.message.toList ++ ['\n']

end Fault

end CodeAudit.Toml
