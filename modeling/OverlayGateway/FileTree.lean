import OverlayGateway.File
import OverlayGateway.Text.Basic
/-!
Files held in memory, below one working directory. Reading fails as it does on a disk: a missing
entry, a directory where a file is wanted, a file where a directory is wanted, or a name that no
disk holds. Every step of a path has to lead on, also one that is taken back.
-/

set_option autoImplicit false
set_option relaxedAutoImplicit false

namespace OverlayGateway

/-- The names along a path, the root first if the path is absolute; `.` and empty names stay where
they are and `..` goes back. -/
def Path.steps (path : String) : List String :=
  let start := if isAbsolute path then ["/"] else []
  (Text.split '/' path).foldl
    (fun steps name ↦
      if name = "" ∨ name = "." then steps
      else if name = ".." then steps.dropLast
      else steps ++ [name]) start

structure FileTree where
  files : List (List String × List UInt8) := []
  directories : List (List String) := []

namespace FileTree

def ofList (files : List (String × List UInt8)) : FileTree :=
  { files := files.map fun (path, bytes) ↦ (Path.steps path, bytes) }

def isFile (tree : FileTree) (steps : List String) : Bool :=
  tree.files.any fun file ↦ file.1 = steps

/-- The directory above one; above the working directory there are others. -/
def above (steps : List String) : List String :=
  if steps.all (· = "..") then ".." :: steps
  else if steps = ["/"] then steps
  else steps.dropLast

/-- Every path that exists, the directories above files included. -/
def isDirectory (tree : FileTree) (steps : List String) : Bool :=
  steps.all (· = "..") || steps = ["/"] ||
    tree.directories.any (fun other ↦ steps.isPrefixOf other) ||
    tree.files.any fun file ↦ steps.isPrefixOf file.1 && file.1 ≠ steps

def write (tree : FileTree) (path : String) (bytes : List UInt8) : FileTree :=
  { tree with
    files := (Path.steps path, bytes) :: tree.files.filter fun file ↦ file.1 ≠ Path.steps path }

def remove (tree : FileTree) (path : String) : FileTree :=
  { tree with files := tree.files.filter fun file ↦ file.1 ≠ Path.steps path }

def makeDirectory (tree : FileTree) (path : String) : FileTree :=
  { tree with directories := Path.steps path :: tree.directories }

/-- The tree without a directory and all that is below it. -/
def removeDirectory (tree : FileTree) (path : String) : FileTree where
  files := tree.files.filter fun file ↦ !(Path.steps path).isPrefixOf file.1
  directories := tree.directories.filter fun other ↦ !(Path.steps path).isPrefixOf other

/-- The bytes of the longest name. -/
def longestName : Nat := 255

/-- The bytes of the longest path. -/
def longestPath : Nat := 4095

/-- Where some names lead to from a directory. -/
def follow (tree : FileTree) (steps : List String) : List String → Except FileError (List String)
  | [] => .ok steps
  | name :: names =>
    if tree.isFile steps then .error .notDirectory
    else if !tree.isDirectory steps then .error .notFound
    else if name = "" ∨ name = "." then follow tree steps names
    else if name = ".." then follow tree (above steps) names
    else if longestName < (Text.utf8 name).length then .error .nameTooLong
    else follow tree (steps ++ [name]) names

def read (tree : FileTree) (path : String) : Except FileError (List UInt8) :=
  if path.toList.contains '\x00' then .error .holdsNul
  else if path = "" then .error .notFound
  else if longestPath < (Text.utf8 path).length then .error .nameTooLong
  else do
    let steps ← tree.follow (if Path.isAbsolute path then ["/"] else []) (Text.split '/' path)
    match tree.files.lookup steps with
    | some bytes => return bytes
    | none => throw (if tree.isDirectory steps then .isDirectory else .notFound)

def reader (tree : FileTree) : FileReader Id := fun path ↦ tree.read path

/-- The names in a directory, each once. -/
def list (tree : FileTree) (path : String) : List String :=
  let steps := Path.steps path
  let below := (tree.files.map Prod.fst ++ tree.directories).filterMap fun other ↦
    if steps.isPrefixOf other then (other.drop steps.length).head? else none
  below.eraseDups

theorem nodup_eraseDups (names : List String) : names.eraseDups.Nodup := by
  match names with
  | [] => exact .nil
  | name :: names =>
    rw [List.eraseDups_cons, List.nodup_cons]
    exact ⟨by simp, nodup_eraseDups _⟩
termination_by names.length
decreasing_by exact Nat.lt_succ_of_le (List.length_filter_le _ names)

/-- A directory as it can be looked into. A tree has no links, and all its names are text. -/
def directory (tree : FileTree) (path : String) : Directory where
  entries := (tree.list path).map fun name ↦ { name := Text.utf8 name }
  opens := tree.isDirectory (Path.steps path)
  nodup := by
    rw [List.map_map]
    exact List.Pairwise.map Text.utf8 (fun _ _ hne hsame ↦ hne (Text.utf8_injective hsame))
      (nodup_eraseDups _)

end FileTree

end OverlayGateway
