import Abiscope.Difference.TypeChange
import Abiscope.Suppression.TypeRule
import Abiscope.TypeGraph.Sizing

/-!
# Differences between types

The difference between two types is a tree. A finding stands for a pair of types with the changes of the
types themselves, and below it stand the findings about their parts. A finding that a suppression hides
hides everything below it. Whether anything is left to report, whether anything is suppressed, and whether
the size of some type was not found, is kept with every part of the tree, so that large trees with shared
parts stay cheap to judge.
-/

namespace Abiscope

/-- What was found out about a pair of types. -/
structure Finding where
  /-- The numbers of the two types. -/
  old : Nat
  new : Nat
  oldName : String
  newName : String
  reach : Reach
  location : Option SourceLocation
  changes : List TypeChange
  /-- Why the size of the old type, which suppressions may ask about, is not found. -/
  failure? : Option TypeGraph.SizeFailure
  /-- The label of the suppression that hides the finding. -/
  suppressedBy : Option String := none
deriving DecidableEq, Repr

/-- Whether a suppression hides a finding. -/
def Finding.isSuppressed (finding : Finding) : Bool := finding.suppressedBy.isSome

/-- Findings about the parts of a pair of types: the first one with its role and what is inside it, and
those beside it. -/
inductive Findings where
  | empty
  | cons (role : String) (finding : Finding) (inside beside : Findings)
with
  @[computed_field] anyReportable : Findings → Bool
    | .empty => false
    | .cons _ finding inside beside =>
      (!finding.isSuppressed && (!finding.changes.isEmpty || inside.anyReportable)) ||
        beside.anyReportable
  @[computed_field] anySuppressed : Findings → Bool
    | .empty => false
    | .cons _ finding inside beside =>
      finding.isSuppressed || inside.anySuppressed || beside.anySuppressed
  /-- The first failure. A finding is judged after what is inside it. -/
  @[computed_field] failure? : Findings → Option TypeGraph.SizeFailure
    | .empty => none
    | .cons _ finding inside beside => (inside.failure?.or finding.failure?).or beside.failure?

namespace Findings

def isEmpty : Findings → Bool
  | empty => true
  | cons .. => false

end Findings

/-- The difference between two types. -/
structure TypeDifference where
  finding : Finding
  inside : Findings

namespace TypeDifference

def isSuppressed (difference : TypeDifference) : Bool := difference.finding.isSuppressed

/-- Whether a change is left that no suppression hides. -/
def isReportable (difference : TypeDifference) : Bool :=
  !difference.isSuppressed &&
    (!difference.finding.changes.isEmpty || difference.inside.anyReportable)

/-- Whether a suppression hides anything. -/
def hasSuppressed (difference : TypeDifference) : Bool :=
  difference.isSuppressed || difference.inside.anySuppressed

/-- The first failure to find the size of a type. -/
def failure? (difference : TypeDifference) : Option TypeGraph.SizeFailure :=
  difference.inside.failure?.or difference.finding.failure?

end TypeDifference

/-- A difference inside another one: how deep it lies and what its role is. -/
structure PlacedDifference where
  depth : Nat
  role : Option String
  difference : TypeDifference

/-- All findings in the order of the tree, each before those inside it. -/
def Findings.preorder (depth : Nat) : Findings → List PlacedDifference
  | .empty => []
  | .cons role finding inside beside =>
    ⟨depth, some role, ⟨finding, inside⟩⟩ ::
      (inside.preorder (depth + 1) ++ beside.preorder depth)

/-- All findings in the order of the tree, each before those inside it. -/
def TypeDifference.preorder (difference : TypeDifference) : List PlacedDifference :=
  ⟨0, none, difference⟩ :: difference.inside.preorder 1

end Abiscope
