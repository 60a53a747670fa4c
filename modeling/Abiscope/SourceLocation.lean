import Abiscope.Text.FilePath

/-!
# Source locations

The place of a declaration in source text: a file, perhaps a line in it, and perhaps a column in the
line. A column without a line says nothing and is not shown.
-/

namespace Abiscope

/-- Where a declaration was written. -/
structure SourceLocation where
  file : String
  line : Option Nat := none
  column : Option Nat := none
deriving DecidableEq, Repr

namespace SourceLocation

/-- The name of the file without its directories. A path without such a name is used as it is. -/
def baseName (location : SourceLocation) : String :=
  (Text.FilePath.baseName? location.file).getD location.file

/-- The file, then the line and the column as far as they are known, separated by colons. -/
def render (location : SourceLocation) : String :=
  match location.line, location.column with
  | some line, some column => s!"{location.file}:{line}:{column}"
  | some line, none => s!"{location.file}:{line}"
  | none, _ => location.file

/-- A column is shown only beside a line. -/
theorem render_of_line_eq_none {location : SourceLocation} (noLine : location.line = none) :
    location.render = location.file := by
  simp [render, noLine]

end SourceLocation

end Abiscope
