import CodeAudit.Analyzer
import CodeAudit.CommandLine.Arguments
import CodeAudit.CommandLine.Help
import CodeAudit.Data.Race
import CodeAudit.Presentation
import CodeAudit.Settings.Load

/-!
Runs of the program. A run shows its output part by part, and what it has shown stays there if it fails behind that.
Functions are analyzed side by side, so that a race decides with which failure a run ends if it has several.
-/
namespace CodeAudit.CommandLine

/-- What a run leaves behind when it succeeds: how it ends, and what it shows. -/
structure Shown where
  exit : Exit
  text : List Char

/-- A run that puts its output behind what has been shown before. -/
abbrev Showing (α : Type) := ExceptT Trouble (StateM (List Char)) α

namespace Showing

/-- Shows a text. -/
def display (text : List Char) : Showing Unit :=
  modify (· ++ text)

/-- What a run leaves behind where nothing has been shown before. -/
def collect (run : Showing Exit) : Except Trouble Shown :=
  let (outcome, text) := run.run []
  outcome.map (⟨·, text⟩)

end Showing

/-- A function with its analysis. -/
abbrev Analyzed := FunctionSource × Analysis

/-- The functions that a request selects. -/
def select (module : String) : Option String → Except Failure (List FunctionSource)
  | none => FunctionSource.list module
  | some name => (FunctionSource.extract module name).map ([·])

def analyzeOne (limits : Thresholds) (f : FunctionSource) : Except Trouble Analyzed :=
  match analyze limits f.source with
  | .ok a => .ok (f, a)
  | .error e => .error ((Trouble.ofFailure e).within ("Failed to analyze '" ++ f.qualifiedName ++ "'"))

/-- The functions that are analyzed, in the order of the text. Any one that cannot be analyzed fails the run. -/
def analyzed (read : ReadFile) (r : AnalyzeRequest) (race : Race Trouble) : Except Trouble (List Analyzed) := do
  let settings ← (Settings.load read r.settings).mapError .ofFailure
  let module ← (read r.file).mapError fun fault =>
    ({ cause := .other fault.message } : Trouble).within ("Failed to read " ++ r.file)
  let functions ← (select (.ofList module) r.function).mapError fun e =>
    (Trouble.ofFailure e).within ("Failed to extract functions from " ++ r.file)
  race.collect (functions.map (analyzeOne settings.thresholds))

/-- One function among the others as JSON. -/
def toJson (x : Analyzed) : Json :=
  .object [("name", .string x.1.qualifiedName), ("line", .number x.1.line), ("complexity", .number x.2.complexity),
    ("anti_patterns", Json.reportCodec.encode x.2.report)]

/-- Shows all functions. -/
def showAnalyzed (colors : Bool) : OutputFormat → List Analyzed → Showing Unit
  | .json, xs => .display ((Json.array (xs.map toJson)).pretty 0 ++ ['\n'])
  | .text, [] => .display (Style.dimmed.paint colors "No functions found.".toList ++ ['\n'])
  | .text, xs => xs.forM fun x => .display (x.2.summary colors x.1.qualifiedName x.1.line)

/-- How an analysis ends. -/
def exitOf (strict : Bool) (xs : List Analyzed) : Exit :=
  if strict && xs.any (!·.2.report.isClean) then .patternsFound else .success

/-- A run that analyzes what is asked for, shows it and judges it. -/
def analyzing (colors : Bool) (read : ReadFile) (r : AnalyzeRequest) (race : Race Trouble) : Showing Exit := do
  let xs ← MonadExcept.ofExcept (analyzed read r race)
  showAnalyzed colors r.format xs
  return exitOf r.strict xs

def runAnalyze (colors : Bool) (read : ReadFile) (r : AnalyzeRequest) (race : Race Trouble := .first) :
    Except Trouble Shown :=
  (analyzing colors read r race).collect

def runSystem (colors : Bool) (format : OutputFormat) : Shown :=
  let p := Platform.current
  match format with
  | .json => ⟨.success, (Json.platformCodec.encode p).pretty 0 ++ ['\n']⟩
  | .text =>
    ⟨.success, p.entries.flatMap fun (k, v) =>
      Style.bold.paint colors k.toList ++ ": ".toList ++ v.toList ++ ['\n']⟩

def runRequest (colors : Bool) (read : ReadFile) (race : Race Trouble) : Request → Showing Exit
  | .analyze r => analyzing colors read r race
  | .system format => do
    let shown := runSystem colors format
    .display shown.text
    return shown.exit

/-- A run of the whole program: its exit code, its output and its messages. -/
structure Result where
  code : Nat
  output : List Char := []
  messages : List Char := []

/-- The exit code of a run with wrong arguments. -/
def usageCode : Nat := 2

def interrupted (colors : Bool) : Interruption → Result
  | .explain t => { code := 0, output := helpText colors t }
  | .showVersion => { code := 0, output := versionLine.toList }
  | .nothingAsked => { code := usageCode, messages := helpText colors .program }
  | .wrongUsage e => { code := usageCode, messages := e.render colors }

/-- How a run ended, and what it had shown by then. -/
def finished (colors : Bool) : Except Trouble Exit × List Char → Result
  | (.ok exit, output) => { code := exit.code, output }
  | (.error t, output) =>
    { code := (Exit.ofTrouble t).code, output
      messages := Terminal.errorWord colors ++ ' ' :: t.message.toList ++ ['\n'] }

/-- A run with the given arguments. -/
def run (colors : Bool) (readFile : ReadFile) (args : List String) (race : Race Trouble := .first) : Result :=
  match read args with
  | .error i => interrupted colors i
  | .ok request => finished colors ((runRequest colors readFile race request).run [])

end CodeAudit.CommandLine
