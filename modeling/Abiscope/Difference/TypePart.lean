import Abiscope.Difference.TypeChange
import Abiscope.Suppression.TypeRule

/-!
# Parts of a pair of types

Two types of one sort are compared part by part: what they point at, what they stand for, their
elements, members, results and parameters. A part has a role, and is reached through a pointer or
reference if the whole was or if the step to the part leads through one.
-/

namespace Abiscope

/-- How a part is reached that lies behind a further step. -/
def Reach.through (reach step : Reach) : Reach := if reach = .direct then step else reach

/-- A part of a pair of types: a pair of types with its role. -/
structure TypePart where
  role : String
  old : Nat
  new : Nat
  reach : Reach
deriving DecidableEq, Repr

namespace TypePart

/-- The members of a record that are there on both sides. -/
def ofRecords (old new : Record) (reach : Reach) : List TypePart :=
  if old.bothComplete new then
    old.members.filterMap fun member => (new.member? member.name).map fun counterpart =>
      ⟨s!"data member '{member.name}'", member.type, counterpart.type, reach⟩
  else []

/-- The result of a function and the parameters that are there on both sides. -/
def ofFunctions (old new : FunctionType) (reach : Reach) : List TypePart :=
  ⟨"return type", old.result, new.result, reach⟩ ::
    (old.parameters.zip new.parameters).zipIdx.map fun ((old, new), index) =>
      ⟨s!"parameter {index + 1}", old, new, reach⟩

/-- The parts of a pair of types. -/
def ofNodes (old new : TypeNode) (reach : Reach) : List TypePart :=
  match old, new with
  | .pointer old, .pointer new => [⟨"pointed-to type", old, new, reach.through .pointer⟩]
  | .reference old _, .reference new _ => [⟨"referenced type", old, new, reach.through .reference⟩]
  | .qualified old _, .qualified new _ => [⟨"unqualified underlying type", old, new, reach⟩]
  | .typeAlias _ old _, .typeAlias _ new _ => [⟨"underlying type", old, new, reach⟩]
  | .array old _, .array new _ => [⟨"array element type", old, new, reach⟩]
  | .record old, .record new => ofRecords old new reach
  | .function old, .function new => ofFunctions old new reach
  | _, _ => []

end TypePart

end Abiscope
