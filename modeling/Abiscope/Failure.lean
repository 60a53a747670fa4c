import Abiscope.Elf.Image
import Abiscope.Suppression.File

/-!
# Failures of a run

Why a comparison cannot be carried out: a binary or a suppression file cannot be read, or an argument
makes no sense.
-/

namespace Abiscope

/-- Why a run fails. -/
inductive Failure where
  | binary (error : Elf.ReadError)
  | suppressions (error : Suppression.FileError)
  | argument (details : String)
  | unreadable (details : String)
deriving DecidableEq, Repr

namespace Failure

/-- The text of a failure. -/
def message : Failure → String
  | binary error => "Symtab error: " ++ error.message
  | suppressions error => "Suppression error: " ++ error.message
  | argument details => "Invalid argument: " ++ details
  | unreadable details => "IO error: " ++ details

/-- Whether a failure ends the whole run at once. Of all failures only a marker that comes twice does. -/
def isFatal : Failure → Bool
  | binary (.invalidEntries (.duplicateMarker _)) => true
  | _ => false

end Failure

end Abiscope
