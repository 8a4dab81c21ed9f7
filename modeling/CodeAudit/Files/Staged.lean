import CodeAudit.Files.Basic

/-!
Trees of files made from paths and contents.
-/
namespace CodeAudit

/-- A file with the given bytes. -/
def Entry.ofBytes (bytes : ByteArray) : Entry :=
  .file ((String.fromUTF8? bytes).map String.toList)

namespace Files

/-- Adds an entry under a path, whatever is missing on the way. -/
def stage (fs : Files) (path : String) (e : Entry) : Files :=
  fs.put ((path.splitOn "/").filter fun name => name ≠ "" && name ≠ ".") e

end Files

end CodeAudit
