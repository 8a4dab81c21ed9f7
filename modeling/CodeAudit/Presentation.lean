import CodeAudit.Functions
import CodeAudit.Json.Forms
import CodeAudit.Terminal

/-!
How analyses are shown: as one line of a log, as a detailed list, and as a short summary of a function.
-/
namespace CodeAudit

/-- A report as a JSON text. -/
def Report.text (r : Report) : List Char :=
  Json.reportCodec.write r

/-- The record of a function's findings in a log. -/
def logLine (name : String) (complexity : Nat) (r : Report) : List Char :=
  "Function: ".toList ++ name.toList ++ " | Complexity: ".toList ++ Nat.toDigits 10 complexity ++
    " | Anti-patterns: ".toList ++ r.text

/-- A line of the detailed list: a heading with or without a value, or an entry under it. -/
inductive DetailLine where
  | heading (label value : String)
  | entry (key value : String)
deriving DecidableEq

namespace DetailLine

/-- A line without styles. -/
def plain : DetailLine → List Char
  | heading label value =>
    if value.toList.isEmpty then label.toList ++ [':'] else label.toList ++ ": ".toList ++ value.toList
  | entry key value => "  - ".toList ++ key.toList ++ ": ".toList ++ value.toList

/-- A line with styles, where they are shown. -/
def highlighted (colors : Bool) : DetailLine → List Char
  | heading label value =>
    let label := Style.bold.paint colors (label.toList ++ [':'])
    if value.toList.isEmpty then label else label ++ ' ' :: Style.cyan.paint colors value.toList
  | entry key value => "  - ".toList ++ Style.dimmed.paint colors key.toList ++ ": ".toList ++ value.toList

end DetailLine

/-- The findings with their names, in the order in which they are shown. -/
def Report.entries (r : Report) : List (String × String) :=
  [("detected_patterns", r.patternSet), ("max_nesting_depth", toString r.maxNestingDepth),
    ("conditional_depth", toString r.conditionalDepth)]

namespace Bundle

/-- The detailed list for a function. -/
def details (name : String) (b : Bundle) : List DetailLine :=
  [.heading "Function" name, .heading "Complexity" (toString b.complexity), .heading "Anti-pattern analysis" ""] ++
    b.report.entries.map (fun (k, v) => .entry k v) ++
    .heading "System compatibility" "" :: b.platform.entries.map (fun (k, v) => .entry k v)

def renderPlain (name : String) (b : Bundle) : List Char :=
  Text.unlines ((b.details name).map DetailLine.plain)

def renderHighlighted (colors : Bool) (name : String) (b : Bundle) : List Char :=
  Text.unlines ((b.details name).map (DetailLine.highlighted colors))

end Bundle

namespace Analysis

/-- The patterns in one word: `none` in green, or all of them in yellow. -/
def patternsText (colors : Bool) (a : Analysis) : List Char :=
  if a.report.isClean then Style.green.paint colors "none".toList
  else Style.yellow.paint colors a.report.patternSet.toList

/-- The summary of a function. -/
def summary (colors : Bool) (qualifiedName : String) (line : Nat) (a : Analysis) : List Char :=
  Text.unlines [
    Style.bold.paint colors qualifiedName.toList ++ ' ' ::
      Style.dimmed.paint colors ("(line ".toList ++ Nat.toDigits 10 line ++ [')']),
    "  complexity:        ".toList ++ Nat.toDigits 10 a.complexity,
    "  max nesting depth: ".toList ++ Nat.toDigits 10 a.report.maxNestingDepth,
    "  conditional depth: ".toList ++ Nat.toDigits 10 a.report.conditionalDepth,
    "  patterns:          ".toList ++ a.patternsText colors]

end Analysis

end CodeAudit
