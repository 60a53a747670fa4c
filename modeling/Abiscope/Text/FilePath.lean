/-!
# File paths

A path is text whose parts are separated by slashes. Repeated slashes, a slash at the end and a part
that is a single dot say nothing, with one exception: a dot that opens a relative path is kept when
two paths are compared. The base name is the last part that names something.
-/

namespace Abiscope.Text.FilePath

/-- The parts of a path that move it: neither empty nor a single dot. -/
def parts (path : String) : List String :=
  (path.splitOn "/").filter fun part => part != "" && part != "."

/-- Whether a path starts at the root. -/
def isAbsolute (path : String) : Bool := path.startsWith "/"

/-- Whether a relative path opens with a single dot. -/
def opensWithDot (path : String) : Bool := path == "." || path.startsWith "./"

/-- Two spellings of one path: both or neither absolute, both or neither opened by a dot, and equal
in all parts that move. -/
def same (left right : String) : Bool :=
  isAbsolute left == isAbsolute right && opensWithDot left == opensWithDot right &&
    parts left == parts right

/-- The last part of a path, unless the path names nothing or ends by going up. -/
def baseName? (path : String) : Option String :=
  match (parts path).getLast? with
  | some ".." => none
  | last => last

/-- The path without its last part. A path of one part lies in the directory of the dot. -/
def parent (path : String) : String :=
  let directory := "/".intercalate (parts path).dropLast
  if isAbsolute path then "/" ++ directory
  else if directory == "" then "."
  else directory

/-- A path below a directory. A relative path is put behind one slash, an absolute one stands for
itself. -/
def below (directory path : String) : String :=
  if isAbsolute path then path
  else if directory == "" || directory.endsWith "/" then directory ++ path
  else directory ++ "/" ++ path

end Abiscope.Text.FilePath
