import CodeAudit.Failure
import CodeAudit.Flow.Complexity
import CodeAudit.Flow.OfSyntax
import CodeAudit.Functions
import CodeAudit.Report
import CodeAudit.Syntax.Module

/-!
From a text to its analysis. Only the text of exactly one function, with comments before and behind it, is analyzed.
-/
namespace CodeAudit

def Failure.ofRefusal : Syntax.Refusal → Failure
  | .aborted => parseAborted
  | .fault line column => badSyntax line column

/-- The syntax of a text without errors. -/
def readModule (text : List Char) : Except Failure Syntax.Node :=
  (Syntax.read text).mapError Failure.ofRefusal

namespace Flow

/-- The flow of a module that is one function. -/
def ofModule (root : Syntax.Node) : Except Failure Flow :=
  let statements := root.namedChildren.filter (·.kind ≠ .comment)
  let found := statements.countP Syntax.Node.isFunction
  if found = 1 && statements.length = 1 then .ok (ofNode root) else .error (.notAFunction found)

/-- The flow of the one function in a text. -/
def parse (text : List Char) : Except Failure Flow :=
  (readModule text).bind ofModule

end Flow

/-- The analysis of the one function in a text. -/
def analyze (limits : Thresholds) (text : String) : Except Failure Analysis :=
  (Flow.parse text.toList).map fun flow =>
    { complexity := flow.complexity, report := .of limits flow (Text.lines text.toList) }

namespace FunctionSource

/-- The functions of a module, in the order of its text. -/
def list (module : String) : Except Failure (List FunctionSource) :=
  (readModule module.toList).map (all module.toList)

/-- The first function of a module that goes by a name. -/
def extract (module name : String) : Except Failure FunctionSource :=
  (list module).bind fun fs =>
    match named? name fs with
    | some f => .ok f
    | none => .error (.functionNotFound name)

end FunctionSource

end CodeAudit
