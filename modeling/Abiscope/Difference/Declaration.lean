import Abiscope.Difference.TypeDifference
import Abiscope.Symbol.Basic

/-!
# Differences between declarations

What is reported about functions, variables and symbols: those that are there on one side only, and the
changes of those that are there on both. The label of a suppression marks what it hides; nothing is left
out.
-/

namespace Abiscope

namespace Symbol

/-- A change of the symbol behind a declaration. -/
inductive Change where
  | version (old new : String)
  | binding (old new : Binding)
  | kind (old new : Kind)
  | visibility (old new : Visibility)
  | size (old new : UInt64)
deriving DecidableEq, Repr

/-- A change in words. -/
def Change.text : Change → String
  | .version old new => s!"symbol version changed from '{old}' to '{new}'"
  | .binding old new => s!"symbol binding changed from {old.name} to {new.name}"
  | .kind old new => s!"symbol type changed from {old.name} to {new.name}"
  | .visibility old new => s!"symbol visibility changed from {old.name} to {new.name}"
  | .size old new => s!"size of symbol changed from {old.toNat} to {new.toNat} (in bytes)"

/-- The changes between two symbols. Where one is missing there is nothing to say, and sizes are
compared only if they matter. -/
def changes (sizeMatters : Bool) : Option Symbol → Option Symbol → List Change
  | some old, some new =>
    (if old.version.name == new.version.name then []
      else [.version old.version.name new.version.name]) ++
    (if old.binding == new.binding then [] else [.binding old.binding new.binding]) ++
    (if old.kind == new.kind then [] else [.kind old.kind new.kind]) ++
    (if old.visibility == new.visibility then []
      else [.visibility old.visibility new.visibility]) ++
    (if sizeMatters && old.size != new.size then [.size old.size new.size] else [])
  | _, _ => []

/-- A symbol does not differ from itself. -/
theorem changes_self (sizeMatters : Bool) (symbol : Option Symbol) :
    changes sizeMatters symbol symbol = [] := by
  cases symbol <;> simp [changes]

end Symbol

/-- A function or variable that is there on one side only. -/
structure EntityChange where
  text : String
  key : String
  symbol : Option Symbol
  location : Option SourceLocation
  suppressedBy : Option String
deriving DecidableEq, Repr

def EntityChange.isSuppressed (change : EntityChange) : Bool := change.suppressedBy.isSome

/-- A symbol that no declaration refers to and that is there on one side only. -/
structure SymbolChange where
  symbol : Symbol
  suppressedBy : Option String
deriving DecidableEq, Repr

def SymbolChange.isSuppressed (change : SymbolChange) : Bool := change.suppressedBy.isSome

/-- What happened to a parameter. -/
inductive ParameterChange where
  | retyped (difference : TypeDifference)
  | added (type : String)
  | removed (type : String)

/-- A change of a parameter. -/
structure ParameterDifference where
  index : Nat
  name : Option String
  change : ParameterChange
  suppressedBy : Option String := none

namespace ParameterDifference

def isSuppressed (difference : ParameterDifference) : Bool := difference.suppressedBy.isSome

/-- Whether a change is left that no suppression hides. -/
def isReportable (difference : ParameterDifference) : Bool :=
  !difference.isSuppressed &&
    match difference.change with
    | .retyped type => type.isReportable
    | .added _ | .removed _ => true

/-- The first failure to find the size of a type. -/
def failure? (difference : ParameterDifference) : Option TypeGraph.SizeFailure :=
  match difference.change with
  | .retyped type => type.failure?
  | .added _ | .removed _ => none

end ParameterDifference

/-- The changes of a function that is there on both sides. -/
structure FunctionDifference where
  text : String
  key : String
  location : Option SourceLocation
  result : Option TypeDifference
  parameters : List ParameterDifference
  symbolChanges : List Symbol.Change
  suppressedBy : Option String := none

namespace FunctionDifference

def isSuppressed (difference : FunctionDifference) : Bool := difference.suppressedBy.isSome

def hasChanges (difference : FunctionDifference) : Bool :=
  difference.result.isSome || !difference.parameters.isEmpty || !difference.symbolChanges.isEmpty

/-- Whether a change is left that no suppression hides. -/
def isReportable (difference : FunctionDifference) : Bool :=
  !difference.isSuppressed &&
    (difference.result.any TypeDifference.isReportable ||
      difference.parameters.any ParameterDifference.isReportable ||
      !difference.symbolChanges.isEmpty)

/-- Whether suppressions hide all changes there are. -/
def isFilteredOut (difference : FunctionDifference) : Bool :=
  difference.hasChanges && !difference.isReportable

/-- The first failure to find the size of a type. The result is compared before the parameters. -/
def failure? (difference : FunctionDifference) : Option TypeGraph.SizeFailure :=
  (difference.result.bind TypeDifference.failure?).or
    (difference.parameters.findSome? ParameterDifference.failure?)

end FunctionDifference

/-- The changes of a variable that is there on both sides. -/
structure VariableDifference where
  text : String
  key : String
  location : Option SourceLocation
  type : Option TypeDifference
  symbolChanges : List Symbol.Change
  suppressedBy : Option String := none

namespace VariableDifference

def isSuppressed (difference : VariableDifference) : Bool := difference.suppressedBy.isSome

def hasChanges (difference : VariableDifference) : Bool :=
  difference.type.isSome || !difference.symbolChanges.isEmpty

/-- Whether a change is left that no suppression hides. -/
def isReportable (difference : VariableDifference) : Bool :=
  !difference.isSuppressed &&
    (difference.type.any TypeDifference.isReportable || !difference.symbolChanges.isEmpty)

/-- Whether suppressions hide all changes there are. -/
def isFilteredOut (difference : VariableDifference) : Bool :=
  difference.hasChanges && !difference.isReportable

/-- The first failure to find the size of a type. -/
def failure? (difference : VariableDifference) : Option TypeGraph.SizeFailure :=
  difference.type.bind TypeDifference.failure?

end VariableDifference

end Abiscope
