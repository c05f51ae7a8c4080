import OverlayGateway.Text.Utf8
/-!
Reading files and looking into directories. What a path holds is asked of a reader, so that whoever
runs the gateway decides where files come from; the causes of a failed reading are those an
operating system reports. A directory shows its entries in two ways, which need not agree: each can
be looked up by its name, and all can be listed.
-/

set_option autoImplicit false
set_option relaxedAutoImplicit false

namespace OverlayGateway

/-- Why a file cannot be read. -/
inductive FileError where
  | notFound
  | permissionDenied
  | notDirectory
  | isDirectory
  | nameTooLong
  /-- A path with the character that would end it for the operating system. -/
  | holdsNul
  | other (message : String)
  deriving DecidableEq, Repr

def FileError.message : FileError → String
  | .notFound => "No such file or directory (os error 2)"
  | .permissionDenied => "Permission denied (os error 13)"
  | .notDirectory => "Not a directory (os error 20)"
  | .isDirectory => "Is a directory (os error 21)"
  | .nameTooLong => "File name too long (os error 36)"
  | .holdsNul => "file name contained an unexpected NUL byte"
  | .other message => message

/-- What is read from a path. -/
abbrev FileReader (m : Type → Type) := String → m (Except FileError (List UInt8))

namespace Path

/-- Whether a path starts at the root. -/
def isAbsolute (path : String) : Bool := path.toList.head? = some '/'

/-- A path below a directory; an absolute path stands for itself. -/
def join (directory path : String) : String :=
  if isAbsolute path || directory = "" then path
  else if directory.toList.getLast? = some '/' then directory ++ path
  else directory ++ "/" ++ path

/-- A path, given backwards, without the slashes and the dots behind slashes that it ends with. -/
def dropEnd : List Char → List Char
  | '/' :: rest => dropEnd rest
  | '.' :: '/' :: rest => dropEnd rest
  | cs => cs

/-- The directory of a path, which is empty for a mere name. -/
def directory (path : String) : String :=
  let above := dropEnd (path.toList.reverse.dropWhile (· ≠ '/'))
  if above = [] ∧ isAbsolute path then "/" else String.ofList above.reverse

end Path

/-- An entry of a directory. Its name need not be text. -/
structure Entry where
  name : List UInt8
  /-- Whether looking it up comes to something: a link can lead nowhere. -/
  leads : Bool := true
  /-- Whether listing the directory comes to it: reading an entry can fail. -/
  listed : Bool := true
  deriving DecidableEq

/-- A directory with its entries in the order in which they are listed. One that is not there has
none, and cannot be listed. -/
structure Directory where
  entries : List Entry := []
  /-- Whether it can be opened to be listed. -/
  opens : Bool := true
  nodup : (entries.map Entry.name).Nodup := by decide

namespace Directory

/-- Whether something is found under a name. -/
def holds (directory : Directory) (name : String) : Bool :=
  directory.entries.any fun entry ↦ entry.name = Text.utf8 name && entry.leads

/-- The names that a listing shows, as far as they are text. -/
def names (directory : Directory) : List String :=
  if directory.opens then
    (directory.entries.filter Entry.listed).filterMap fun entry ↦ Text.ofUtf8? entry.name
  else []

end Directory

end OverlayGateway
