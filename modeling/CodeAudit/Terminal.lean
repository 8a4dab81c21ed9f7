/-!
Text with the control sequences of a terminal. A sequence opens a style, and one and the same sequence ends every
style.
-/
namespace CodeAudit

inductive Style where
  | bold
  | dimmed
  | cyan
  | green
  | yellow
  | red
  | underlined
deriving DecidableEq

namespace Terminal

def escape : Char := '\x1b'

/-- The sequence that ends every style. -/
def reset : List Char :=
  [escape, '[', '0', 'm']

end Terminal

namespace Style

open Terminal

/-- The number of a style. -/
def code : Style → List Char
  | bold => ['1']
  | dimmed => ['2']
  | cyan => ['3', '6']
  | green => ['3', '2']
  | yellow => ['3', '3']
  | red => ['3', '1']
  | underlined => ['4']

/-- The sequence that opens a style. -/
def opening (s : Style) : List Char :=
  escape :: '[' :: s.code ++ ['m']

/-- Opens the style anew wherever a text ends it. -/
def reopen (s : Style) : List Char → List Char
  | '\x1b' :: '[' :: '0' :: 'm' :: rest => reset ++ s.opening ++ reopen s rest
  | c :: rest => c :: reopen s rest
  | [] => []

/-- A text in a style, where styles are shown. -/
def paint (s : Style) (colors : Bool) (text : List Char) : List Char :=
  if colors then s.opening ++ s.reopen text ++ reset else text

/-- A text in several styles at once, where styles are shown. What is in the text stays as it is. -/
def wrap (styles : List Style) (colors : Bool) (text : List Char) : List Char :=
  if colors then styles.flatMap opening ++ text ++ reset else text

end Style

namespace Terminal

/-- The word in front of an error that is told as the last thing, where styles are shown. -/
def errorWord (colors : Bool) : List Char :=
  let word := "error:".toList
  if colors then escape :: "[1;31m".toList ++ word ++ reset else word

end Terminal

end CodeAudit
