import CodeAudit.Files.Fault
import CodeAudit.Settings.OfToml

/-!
What can go wrong, and how it is told: each failure has a message, and some have a source with a message of its own.
On its way out a failure may be given contexts, which tell what was being done.
-/
namespace CodeAudit

inductive Failure where
  | io (fault : FileFault) (path : String)
  | badSyntax (line column : Nat)
  | notAFunction (found : Nat)
  | functionNotFound (name : String)
  | grammar (reason : String)
  | parseAborted
  | settings (fault : Toml.Fault) (path : String)
deriving DecidableEq

namespace Failure

/-- The path of a file that is not known. -/
def unknownPath : String := "<unknown>"

/-- The path of a text that is in no file. -/
def inlinePath : String := "<inline>"

/-- The text of what caused a failure, if that is told by itself too. -/
def source? : Failure → Option String
  | io fault _ => some fault.message
  | settings fault _ => some (.ofList fault.render)
  | _ => none

def atPath (what source path : String) : String :=
  what ++ ": " ++ source ++ " (path: " ++ path ++ ")"

def message : Failure → String
  | io fault path => atPath "I/O error" fault.message path
  | badSyntax line column => "Syntax error at line " ++ toString line ++ ", column " ++ toString column
  | notAFunction found =>
    "Expected a lone function definition, found " ++ toString found ++ " definition(s) at top level"
  | functionNotFound name => "Function '" ++ name ++ "' not found"
  | grammar reason => "Failed to load Python grammar: " ++ reason
  | parseAborted => "Parser returned no tree"
  | settings fault path => atPath "Invalid config" (.ofList fault.render) path

/-- The input is to blame, not its surroundings. -/
def isInvalidInput : Failure → Bool
  | badSyntax .. | notAFunction _ | functionNotFound _ => true
  | _ => false

end Failure

/-- What an error begins with: a failure of this program, or anything else that only has a text. -/
inductive Cause where
  | failure (f : Failure)
  | other (text : String)
deriving DecidableEq

/-- A cause and the contexts that were added to it, the last one in front. -/
structure Trouble where
  contexts : List String := []
  cause : Cause
deriving DecidableEq

namespace Trouble

def ofFailure (f : Failure) : Trouble :=
  { cause := .failure f }

/-- Adds a context. -/
def within (context : String) (t : Trouble) : Trouble :=
  { t with contexts := context :: t.contexts }

/-- All messages, from the outermost context to the innermost source. -/
def chain (t : Trouble) : List String :=
  t.contexts ++
    match t.cause with
    | .failure f => f.message :: f.source?.toList
    | .other text => [text]

def message (t : Trouble) : String :=
  ": ".intercalate t.chain

def failure? (t : Trouble) : Option Failure :=
  match t.cause with
  | .failure f => some f
  | .other _ => none

end Trouble

/-- How a run ends. -/
inductive Exit where
  | success
  | error
  | invalidInput
  | patternsFound
deriving DecidableEq

namespace Exit

def code : Exit → Nat
  | success => 0
  | error => 1
  | invalidInput => 2
  | patternsFound => 3

def name : Exit → String
  | success => "Success"
  | error => "Error"
  | invalidInput => "InvalidInput"
  | patternsFound => "PatternsFound"

/-- The contexts do not matter. -/
def ofTrouble (t : Trouble) : Exit :=
  if t.failure?.any Failure.isInvalidInput then invalidInput else error

end Exit

end CodeAudit
