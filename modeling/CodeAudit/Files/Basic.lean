import CodeAudit.Files.Fault

/-!
A tree of files. A file holds a text, unless its bytes are none; nothing that is put behind such bytes makes a text of
them. Paths lead from the root of the tree. Writing changes one file and adds directories nowhere.
-/
namespace CodeAudit

/-- What can stand under a path. A file whose bytes are no text has none. -/
inductive Entry where
  | directory
  | file (text : Option (List Char))
deriving DecidableEq

/-- A way to the texts of files. -/
abbrev ReadFile := String → Except FileFault (List Char)

/-- The entries by the names on the way to them. The directories on the way need no entries of their own. -/
structure Files where
  entries : List (List String × Entry) := []

namespace Files

/-- The names on the way; an empty name or a dot stays where it is. -/
abbrev Place := List String

/-- What stands in a place. -/
def get? (fs : Files) (place : Place) : Option Entry :=
  if place = [] then some .directory
  else match fs.entries.lookup place with
    | some e => some e
    | none => if fs.entries.any (fun e => place.isPrefixOf e.1) then some .directory else none

/-- Puts an entry in a place, over what was there. -/
def put (fs : Files) (place : Place) (e : Entry) : Files :=
  ⟨(place, e) :: fs.entries.filter (·.1 ≠ place)⟩

/-- One name further from a place, which must be a directory. -/
def step (fs : Files) (place : Place) (name : String) : Except FileFault Place :=
  match fs.get? place with
  | none => .error .missing
  | some (.file _) => .error .notDirectory
  | some .directory =>
    if name = "" || name = "." then .ok place
    else if name = ".." then .ok place.dropLast
    else if 255 < name.utf8ByteSize then .error .nameTooLong
    else .ok (place ++ [name])

/-- The most bytes that a path may have. -/
def longestPath : Nat := 4095

/-- The place to which names lead, one after the other, on the way of a path. Something may be missing there, but not
on the way. -/
def walk (fs : Files) (path : String) (names : List String) : Except FileFault Place :=
  if path = "" then .error .missing
  else if path.contains '\x00' then .error .zeroByte
  else if longestPath < path.utf8ByteSize then .error .nameTooLong
  else names.foldlM fs.step []

/-- The place to which a path leads. -/
def resolve (fs : Files) (path : String) : Except FileFault Place :=
  fs.walk path (path.splitOn "/")

/-- The place of a file that is made if it is missing. No file is made under a path that ends in a slash. -/
def resolveFile (fs : Files) (path : String) : Except FileFault Place :=
  match (path.splitOn "/").reverse with
  | "" :: rest => (fs.walk path (rest.dropWhile (· = "")).reverse).bind fun _ => .error .isDirectory
  | _ => fs.resolve path

/-- The text of a file. -/
def read (fs : Files) : ReadFile := fun path =>
  (fs.resolve path).bind fun place =>
    match fs.get? place with
    | none => .error .missing
    | some .directory => .error .isDirectory
    | some (.file none) => .error .notText
    | some (.file (some text)) => .ok text

/-- Puts a text behind what a file holds already. A missing file is made. -/
def append (fs : Files) (path : String) (text : List Char) : Except FileFault Files :=
  (fs.resolveFile path).bind fun place =>
    match fs.get? place with
    | none => .ok (fs.put place (.file (some text)))
    | some .directory => .error .isDirectory
    | some (.file old) => .ok (fs.put place (.file (old.map (· ++ text))))

/-- The text of a file, if it can be read. -/
def text? (fs : Files) (path : String) : Option (List Char) :=
  (fs.read path).toOption

end Files

end CodeAudit
