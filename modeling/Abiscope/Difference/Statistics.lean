import Abiscope.Difference

/-!
# Counting differences

Every category of changes is counted, and how many of them suppressions hide. The status of a comparison
tells whether anything is left to report, and whether something that users rely on is gone. Statuses of
several comparisons, and of failures, are joined flag by flag; the exit code adds up the flags.
-/

namespace Abiscope

/-- The outcome of a run. -/
structure Status where
  hasFailed : Bool := false
  isMisused : Bool := false
  isChanged : Bool := false
  isIncompatible : Bool := false
deriving DecidableEq, Repr

namespace Status

/-- The status with the flags of both. -/
def join (left right : Status) : Status :=
  ⟨left.hasFailed || right.hasFailed, left.isMisused || right.isMisused,
    left.isChanged || right.isChanged, left.isIncompatible || right.isIncompatible⟩

/-- The exit code. -/
def code (status : Status) : Nat :=
  status.hasFailed.toNat + 2 * status.isMisused.toNat + 4 * status.isChanged.toNat +
    8 * status.isIncompatible.toNat

/-- The exit code tells all flags. -/
theorem code_inj {left right : Status} (same : left.code = right.code) : left = right := by
  revert same
  rcases left with ⟨_ | _, _ | _, _ | _, _ | _⟩ <;>
    rcases right with ⟨_ | _, _ | _, _ | _, _ | _⟩ <;> decide

end Status

/-- The number of changes of a category, and how many of them are suppressed. -/
structure ChangeCount where
  total : Nat := 0
  suppressed : Nat := 0
deriving DecidableEq, Repr

namespace ChangeCount

/-- Counts changes. -/
def of {α : Type} (isSuppressed : α → Bool) (changes : List α) : ChangeCount :=
  ⟨changes.length, changes.countP isSuppressed⟩

/-- The number of changes that are left to report. -/
def reportable (count : ChangeCount) : Nat := count.total - count.suppressed

/-- What is left to report are the changes that are not suppressed. -/
theorem reportable_of {α : Type} (isSuppressed : α → Bool) (changes : List α) :
    (of isSuppressed changes).reportable = changes.countP fun change => !isSuppressed change := by
  have := List.length_eq_countP_add_countP isSuppressed (l := changes)
  have same : changes.countP (fun change => decide ¬isSuppressed change = true) =
      changes.countP fun change => !isSuppressed change := by
    congr 1
    funext change
    cases isSuppressed change <;> rfl
  simp only [reportable, of]
  omega

end ChangeCount

namespace Difference

/-- The counts of all categories. -/
structure Statistics where
  removedFunctions : ChangeCount
  addedFunctions : ChangeCount
  changedFunctions : ChangeCount
  removedVariables : ChangeCount
  addedVariables : ChangeCount
  changedVariables : ChangeCount
  removedFunctionSymbols : ChangeCount
  addedFunctionSymbols : ChangeCount
  removedVariableSymbols : ChangeCount
  addedVariableSymbols : ChangeCount
deriving DecidableEq, Repr

/-- Counts the changes of a difference. Changed functions and variables are suppressed if nothing is
left of them to report. -/
def statistics (difference : Difference) : Statistics where
  removedFunctions := .of EntityChange.isSuppressed difference.removedFunctions
  addedFunctions := .of EntityChange.isSuppressed difference.addedFunctions
  changedFunctions := .of FunctionDifference.isFilteredOut difference.changedFunctions
  removedVariables := .of EntityChange.isSuppressed difference.removedVariables
  addedVariables := .of EntityChange.isSuppressed difference.addedVariables
  changedVariables := .of VariableDifference.isFilteredOut difference.changedVariables
  removedFunctionSymbols := .of SymbolChange.isSuppressed difference.removedFunctionSymbols
  addedFunctionSymbols := .of SymbolChange.isSuppressed difference.addedFunctionSymbols
  removedVariableSymbols := .of SymbolChange.isSuppressed difference.removedVariableSymbols
  addedVariableSymbols := .of SymbolChange.isSuppressed difference.addedVariableSymbols

/-- The counts in their fixed order. -/
def Statistics.counts (statistics : Statistics) : List ChangeCount :=
  [statistics.removedFunctions, statistics.addedFunctions, statistics.changedFunctions,
    statistics.removedVariables, statistics.addedVariables, statistics.changedVariables,
    statistics.removedFunctionSymbols, statistics.addedFunctionSymbols,
    statistics.removedVariableSymbols, statistics.addedVariableSymbols]

/-- Whether anything changed about the binaries themselves. -/
def hasBinaryChanges (difference : Difference) : Bool :=
  difference.soname.isSome || difference.architecture.isSome ||
    !difference.removedNeeded.isEmpty || !difference.addedNeeded.isEmpty

/-- Whether anything changed, suppressed or not. -/
def hasChanges (difference : Difference) : Bool :=
  difference.hasBinaryChanges || difference.statistics.counts.any fun count => count.total > 0

/-- Whether something is gone that users of the first binary rely on. -/
def isIncompatible (difference : Difference) : Bool :=
  (difference.removedFunctions.any fun change => !change.isSuppressed) ||
    (difference.removedVariables.any fun change => !change.isSuppressed) ||
    (difference.removedFunctionSymbols.any fun change => !change.isSuppressed) ||
    difference.removedVariableSymbols.any fun change => !change.isSuppressed

/-- Whether a change is left that no suppression hides. Changes of the binaries are never hidden. -/
def isReportable (difference : Difference) : Bool :=
  difference.hasBinaryChanges || difference.isIncompatible ||
    (difference.addedFunctions.any fun change => !change.isSuppressed) ||
    (difference.addedVariables.any fun change => !change.isSuppressed) ||
    (difference.addedFunctionSymbols.any fun change => !change.isSuppressed) ||
    (difference.addedVariableSymbols.any fun change => !change.isSuppressed) ||
    difference.changedFunctions.any FunctionDifference.isReportable ||
    difference.changedVariables.any VariableDifference.isReportable

/-- The status of a comparison. -/
def status (difference : Difference) : Status where
  isChanged := difference.isReportable
  isIncompatible := difference.isIncompatible

end Difference

end Abiscope
