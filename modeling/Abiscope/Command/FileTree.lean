import Abiscope.Text.FilePath

/-!
# Trees of files

What a run can see of a file system: some files with their contents, and the directories that lead to
them. Relative paths start at the working directory. A path is followed part by part, so that a file
never leads on, not even to itself.
-/

namespace Abiscope.Command

/-- Why a path leads to no file. -/
inductive PathFault where
  | missing
  | throughFile
  | directory
deriving DecidableEq, Repr

/-- The text of a fault. -/
def PathFault.message : PathFault → String
  | missing => "No such file or directory (os error 2)"
  | throughFile => "Not a directory (os error 20)"
  | directory => "Is a directory (os error 21)"

/-- Files by the parts of their paths from the root on, and the parts of the working directory. -/
structure FileTree where
  work : List String := []
  files : List (List String × ByteArray) := []

namespace FileTree

/-- A tree of files below a working directory. -/
def ofFiles (work : String) (files : List (String × ByteArray)) : FileTree :=
  let start := Text.FilePath.parts work
  ⟨start, files.map fun (path, bytes) => (start ++ Text.FilePath.parts path, bytes)⟩

/-- Whether parts lead to a directory: the working one, or one on the way to it or to a file. -/
def isDirectory (tree : FileTree) (parts : List String) : Bool :=
  parts.isPrefixOf tree.work || tree.files.any fun file => parts.isPrefixOf file.1 && parts != file.1

/-- Follows a path from a place on. -/
def follow (tree : FileTree) (place : List String) : List String → Except PathFault ByteArray
  | [] =>
    match tree.files.lookup place with
    | some bytes => .ok bytes
    | none => .error (if tree.isDirectory place then .directory else .missing)
  | part :: rest =>
    if (tree.files.lookup place).isSome then .error .throughFile
    else if !tree.isDirectory place then .error .missing
    else if part == "" || part == "." then follow tree place rest
    else if part == ".." then follow tree place.dropLast rest
    else follow tree (place ++ [part]) rest

/-- What a path leads to. -/
def find (tree : FileTree) (path : String) : Except PathFault ByteArray :=
  if path == "" then .error .missing
  else tree.follow (if Text.FilePath.isAbsolute path then [] else tree.work) (path.splitOn "/")

/-- The content of a file, or the reason why there is none. -/
def read (tree : FileTree) (path : String) : Except String ByteArray :=
  (tree.find path).mapError PathFault.message

/-- Whether a path leads to a file or a directory. -/
def isPresent (tree : FileTree) (path : String) : Bool :=
  match tree.find path with
  | .ok _ | .error .directory => true
  | .error _ => false

/-- Whether a directory is there or can be made: no file may be in the way. -/
def canHold (tree : FileTree) (path : String) : Bool :=
  match tree.find path with
  | .error .directory | .error .missing => true
  | .ok _ | .error .throughFile => false

end FileTree

end Abiscope.Command
