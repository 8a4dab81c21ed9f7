import CodeAudit.Terminal

/-!
What the program can be asked to do, and what can be wrong with the way it is asked.
-/
namespace CodeAudit

/-- The form of what is shown. -/
inductive OutputFormat where
  | text
  | json
deriving DecidableEq

/-- Which functions are analyzed, and how the outcome is shown. A strict analysis fails if it finds anything. -/
structure AnalyzeRequest where
  file : String
  function : Option String := none
  format : OutputFormat := .text
  strict : Bool := false
  settings : Option String := none
deriving DecidableEq

inductive Request where
  | analyze (r : AnalyzeRequest)
  | system (format : OutputFormat)
deriving DecidableEq

namespace CommandLine

/-- What the program and its commands take besides commands. -/
inductive Argument where
  | file
  | function
  | format
  | strict
  | settings
  | verbose
  | help
  | version
deriving DecidableEq

namespace Argument

/-- The name behind two dashes; what has none is known by its place. -/
def long? : Argument → Option String
  | file => none
  | function => some "function"
  | format => some "format"
  | strict => some "strict"
  | settings => some "config"
  | verbose => some "verbose"
  | help => some "help"
  | version => some "version"

/-- The letter behind one dash. -/
def short? : Argument → Option Char
  | function => some 'f'
  | verbose => some 'v'
  | help => some 'h'
  | version => some 'V'
  | _ => none

/-- What a value is called; a flag has none. -/
def value? : Argument → Option String
  | file => some "FILE"
  | function => some "FUNCTION"
  | format => some "FORMAT"
  | settings => some "FILE"
  | _ => none

def takesValue (a : Argument) : Bool :=
  a.value?.isSome

/-- How an argument is called in messages. -/
def usage (a : Argument) : String :=
  let value := a.value?.map fun v => "<" ++ v ++ ">"
  match a.long?, value with
  | some name, some v => "--" ++ name ++ " " ++ v
  | some name, none => "--" ++ name
  | none, v => v.getD ""

end Argument

/-- What is explained. -/
inductive Topic where
  | program
  | analyze
  | system
  | help
deriving DecidableEq

/-- What is wrong with the arguments. -/
inductive UsageError where
  | unexpectedArgument (arg : String)
  | unrecognizedCommand (name : String)
  | missingCommand
  | missingArguments
  | repeatedArgument (a : Argument)
  | missingValue (a : Argument)
  | invalidValue (value : String) (a : Argument)
  /-- A flag was given a value. -/
  | unexpectedValue (value : String) (a : Argument)
deriving DecidableEq

/-- What is done instead of a request. -/
inductive Interruption where
  | explain (t : Topic)
  | showVersion
  /-- Nothing was asked for at all. -/
  | nothingAsked
  | wrongUsage (e : UsageError)
deriving DecidableEq

end CommandLine

end CodeAudit
