import CodeAudit.CommandLine.Run

/-!
The program. It reads the files that are asked for, runs, and shows what came of it.
-/
open CodeAudit

/-- The text of a file, or why there is none. -/
def readText (path : String) : IO (Except FileFault (List Char)) := do
  try
    let bytes ← IO.FS.readBinFile path
    match String.fromUTF8? bytes with
    | some text => return .ok text.toList
    | none => return .error .notText
  catch e =>
    match e with
    | .noFileOrDirectory .. => return .error .missing
    | .inappropriateType .. => return .error .isDirectory
    | e => return .error (.other (toString e))

/-- The paths that a request may read. -/
def pathsOf : Request → List String
  | .analyze r => [r.file, r.settings.getD Settings.defaultPath]
  | .system _ => []

/-- Styles are shown if that is forced, or on a terminal unless it is forbidden. -/
def showsStyles : IO Bool := do
  if (← IO.getEnv "CLICOLOR_FORCE").any (· ≠ "0") then return true
  if (← IO.getEnv "NO_COLOR").isSome then return false
  (← IO.getStdout).isTty

def main (args : List String) : IO UInt32 := do
  let paths := match CommandLine.read args with
    | .ok request => pathsOf request
    | .error _ => []
  let texts ← paths.mapM fun path => return (path, ← readText path)
  let result := CommandLine.run (← showsStyles) (fun path => (texts.lookup path).getD (.error .missing)) args
  (← IO.getStdout).putStr (.ofList result.output)
  (← IO.getStderr).putStr (.ofList result.messages)
  return UInt32.ofNat result.code
