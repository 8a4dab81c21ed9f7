/-!
Why a file cannot be read or written.
-/
namespace CodeAudit

/-- What sort of thing went wrong, where no more than that is known. -/
inductive FaultSort where
  | notFound
  | permissionDenied
  | alreadyExists
  | invalidData
  | unexpectedEnd
deriving DecidableEq

namespace FaultSort

def message : FaultSort → String
  | notFound => "entity not found"
  | permissionDenied => "permission denied"
  | alreadyExists => "entity already exists"
  | invalidData => "invalid data"
  | unexpectedEnd => "unexpected end of file"

end FaultSort

inductive FileFault where
  /-- Nothing stands under the path. -/
  | missing
  /-- The path leads through something that is no directory. -/
  | notDirectory
  /-- A directory stands where a file is wanted. -/
  | isDirectory
  /-- The path, or a name in it, has more bytes than it may have. -/
  | nameTooLong
  /-- A zero byte stands in the path. -/
  | zeroByte
  /-- The file is no text. -/
  | notText
  | sort (s : FaultSort)
  | other (text : String)
deriving DecidableEq

namespace FileFault

/-- What the system says about a fault of its own, with its number. -/
def systemText (text : String) (number : Nat) : String :=
  text ++ " (os error " ++ toString number ++ ")"

def message : FileFault → String
  | missing => systemText "No such file or directory" 2
  | notDirectory => systemText "Not a directory" 20
  | isDirectory => systemText "Is a directory" 21
  | nameTooLong => systemText "File name too long" 36
  | zeroByte => "file name contained an unexpected NUL byte"
  | notText => "stream did not contain valid UTF-8"
  | sort s => s.message
  | other text => text

end FileFault

end CodeAudit
