import CodeAudit.Failure
import CodeAudit.Files.Basic

/-!
Where settings come from. A file that does not exist sets nothing.
-/
namespace CodeAudit.Settings

/-- The file in which settings are looked for. -/
def defaultPath : String := "copilot.toml"

/-- The settings of a text that stands at a path. -/
def ofText (path : String) (text : List Char) : Except Failure Settings :=
  (parse text).mapError (.settings · path)

/-- The settings of a text that is in no file. -/
def inline (text : String) : Except Failure Settings :=
  ofText Failure.inlinePath text.toList

/-- The settings in a file. -/
def ofFile (read : ReadFile) (path : String) : Except Failure Settings :=
  match read path with
  | .ok text => ofText path text
  | .error .missing => .ok {}
  | .error fault => .error (.io fault path)

/-- The settings in a file, or in the default one. -/
def load (read : ReadFile) (path : Option String) : Except Failure Settings :=
  ofFile read (path.getD defaultPath)

end CodeAudit.Settings
