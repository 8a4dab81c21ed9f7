import CodeAudit.CommandLine.Basic

/-!
What the program says about itself and about the way it is used.
-/
namespace CodeAudit.CommandLine

/-- The name of the program. -/
def programName : String := "copilot"

def versionLine : String :=
  programName ++ " 0.1.0\n"

def heading (colors : Bool) (text : String) : List Char :=
  Style.wrap [.bold, .underlined] colors text.toList

def literal (colors : Bool) (text : String) : List Char :=
  Style.wrap [.bold] colors text.toList

/-- A row of a list: a name that fills the first column, and what it stands for. -/
structure Row where
  literals : List String
  value : String := ""
  about : String
  /-- There is no short name in front. -/
  isLong : Bool := false

namespace Row

/-- The text of the first column. -/
def plainName (r : Row) : String :=
  ", ".intercalate r.literals ++ r.value

def name (colors : Bool) (r : Row) : List Char :=
  [',', ' '].intercalate (r.literals.map (literal colors)) ++ r.value.toList

/-- Names without a short one begin under the long names of the others. -/
def indent (r : Row) : Nat :=
  if r.isLong then 6 else 2

def width (r : Row) : Nat :=
  r.indent + r.plainName.length

def render (colors : Bool) (width : Nat) (r : Row) : List Char :=
  List.replicate r.indent ' ' ++ r.name colors ++ List.replicate (width + 2 - r.width) ' ' ++ r.about.toList

end Row

/-- Rows under a heading. -/
structure Section where
  title : String
  rows : List Row

def Section.render (colors : Bool) (s : Section) : List Char :=
  let width := s.rows.foldl (fun w r => max w r.width) 0
  heading colors s.title ++ '\n' :: s.rows.flatMap fun r => r.render colors width ++ ['\n']

/-- What is said about a topic. -/
structure Page where
  about : String
  command : String
  parameters : String
  sections : List Section

def helpAbout : String := "Print this message or the help of the given subcommand(s)"
def analyzeAbout : String := "Analyze every function in a Python file, or one by name"
def systemAbout : String := "Print facts about this build and platform"

def verboseRow : Row := { literals := ["-v", "--verbose"], about := "Enable debug logging" }
def helpRow : Row := { literals := ["-h", "--help"], about := "Print help" }
def versionRow : Row := { literals := ["-V", "--version"], about := "Print version" }

def formatRow : Row :=
  { literals := ["--format"], value := " <FORMAT>", about := "[default: text] [possible values: text, json]", isLong := true }

namespace Topic

def page : Topic → Page
  | program =>
    { about := "Complexity and anti-pattern audit for AI-generated Python functions"
      command := programName
      parameters := "[OPTIONS] <COMMAND>"
      sections := [
        ⟨"Commands:", [
          { literals := ["analyze"], about := analyzeAbout },
          { literals := ["system"], about := systemAbout },
          { literals := ["help"], about := helpAbout }]⟩,
        ⟨"Options:", [verboseRow, helpRow, versionRow]⟩] }
  | analyze =>
    { about := analyzeAbout
      command := programName ++ " analyze"
      parameters := "[OPTIONS] <FILE>"
      sections := [
        ⟨"Arguments:", [{ literals := [], value := "<FILE>", about := "Python source file" }]⟩,
        ⟨"Options:", [
          { literals := ["-f", "--function"], value := " <FUNCTION>", about := "Function name, or `Class.method`" },
          verboseRow, formatRow,
          { literals := ["--strict"], about := "Exit with code 3 when any anti-pattern is detected", isLong := true },
          { literals := ["--config"], value := " <FILE>", about := "Config file (defaults to ./copilot.toml)"
            isLong := true },
          helpRow]⟩] }
  | system =>
    { about := systemAbout
      command := programName ++ " system"
      parameters := "[OPTIONS]"
      sections := [⟨"Options:", [formatRow, verboseRow, helpRow]⟩] }
  | help =>
    { about := helpAbout
      command := programName ++ " help"
      parameters := "[COMMAND]..."
      sections := [
        ⟨"Arguments:", [{ literals := [], value := "[COMMAND]...", about := "Print help for the subcommand(s)" }]⟩] }

end Topic

def usageLine (colors : Bool) (t : Topic) : List Char :=
  heading colors "Usage:" ++ ' ' :: literal colors t.page.command ++ ' ' :: t.page.parameters.toList ++ ['\n']

/-- The page of a topic. -/
def helpText (colors : Bool) (t : Topic) : List Char :=
  t.page.about.toList ++ "\n\n".toList ++ usageLine colors t ++
    t.page.sections.flatMap fun s => '\n' :: s.render colors

namespace UsageError

/-- What is wrong, in one line. -/
def message (colors : Bool) (e : UsageError) : List Char :=
  let bad (text : String) : List Char := '\'' :: Style.wrap [.yellow] colors text.toList ++ ['\'']
  let good (text : String) : List Char := '\'' :: literal colors text ++ ['\'']
  match e with
  | unexpectedArgument arg => "unexpected argument ".toList ++ bad arg ++ " found".toList
  | unrecognizedCommand name => "unrecognized subcommand ".toList ++ bad name
  | missingCommand => bad programName ++ " requires a subcommand but one was not provided".toList
  | missingArguments => "the following required arguments were not provided:".toList
  | repeatedArgument a => "the argument ".toList ++ bad a.usage ++ " cannot be used multiple times".toList
  | missingValue a => "a value is required for ".toList ++ bad a.usage ++ " but none was supplied".toList
  | invalidValue value a => "invalid value ".toList ++ bad value ++ " for ".toList ++ good a.usage
  | unexpectedValue value a =>
    "unexpected value ".toList ++ bad value ++ " for ".toList ++ good a.usage ++
      " found; no more were expected".toList

/-- What is wrong, with some advice. -/
def render (colors : Bool) (e : UsageError) : List Char :=
  Style.wrap [.bold, .red] colors "error:".toList ++ ' ' :: e.message colors ++
    "\n\nFor more information, try '".toList ++ literal colors "--help" ++ "'.\n".toList

end UsageError

end CodeAudit.CommandLine
