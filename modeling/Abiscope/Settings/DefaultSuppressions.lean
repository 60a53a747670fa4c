import Abiscope.Text.FilePath

/-!
# The suppression file that applies by default

A variable of the environment may name the file; set to nothing it turns the default off. Otherwise a
file of the user's own is taken, if there is one.
-/

namespace Abiscope.Settings

/-- The variable that names the default suppression file. -/
def defaultSuppressionsVariable : String := "ABICOMP_DEFAULT_SUPPRESSIONS"

/-- The place of the user's own file below the home directory. -/
def ownSuppressions (home : String) : String :=
  Text.FilePath.below (Text.FilePath.below home ".abicomp") "default.toml"

/-- The default suppression file. `present` tells whether a path names a file. -/
def defaultSuppressions? (lookup : String → Option String) (present : String → Bool) :
    Option String :=
  match lookup defaultSuppressionsVariable with
  | some path => if path == "" then none else some path
  | none =>
    match lookup "HOME" with
    | some home =>
      if home != "" && present (ownSuppressions home) then some (ownSuppressions home) else none
    | none => none

end Abiscope.Settings
