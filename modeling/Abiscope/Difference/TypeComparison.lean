import Abiscope.Difference.TypeDifference
import Abiscope.Difference.TypePart
import Abiscope.TypeGraph.Sizing
import Abiscope.TypeGraph.Trail
import Std.Data.TreeMap

/-!
# Comparing types

Two types, one from each of two graphs, are compared with all their parts. A pair that is being compared
further up is not entered again, so that a change of a type that contains itself is found once, at the
top. The result for a pair is remembered for every way of reaching it, unless the pair lies on a circle
that is still open above it: such a result is cut short and holds only where it was found.
-/

namespace Abiscope

/-- Two graphs whose types are compared, and the suppression of what is found. -/
structure TypeComparison where
  first : TypeGraph
  second : TypeGraph
  /-- The label of the suppression that hides a change. -/
  label? : Suppression.TypeFacts → Option String

namespace TypeComparison

open Suppression (TypeFacts)

/-- The offsets of inserted members, when nothing else changed but the size. -/
def insertedOffsets (changes : List TypeChange) (inside : Findings) : Option (List UInt64) :=
  let isGrowth : TypeChange → Bool
    | .memberAdded .. | .resized .. => true
    | _ => false
  let offsets := changes.filterMap fun
    | .memberAdded _ _ offset => some offset
    | _ => none
  if inside.isEmpty && changes.all isGrowth && !offsets.isEmpty then some offsets else none

/-- The enumerators whose values changed, when nothing else changed but that others were added. -/
def changedEnumerators (changes : List TypeChange) (inside : Findings) : Option (List String) :=
  let isExpected : TypeChange → Bool
    | .enumeratorRevalued .. | .enumeratorAdded .. => true
    | _ => false
  let names := changes.filterMap fun
    | .enumeratorRevalued name _ _ => some name
    | _ => none
  if inside.isEmpty && !changes.isEmpty && changes.all isExpected then some names else none

/-- What a suppression may ask about the changes of a pair of types. A size that is not found does not
count here, since the comparison fails of it. -/
def factsOf (comparison : TypeComparison) (part : TypePart) (changes : List TypeChange)
    (inside : Findings) : TypeFacts where
  name := comparison.first.name part.old
  kind := TypeKind.ofNode? (comparison.first.node part.old)
  location := (comparison.first.node part.old).location?
  reach := part.reach
  size := (comparison.first.sizeOf? part.old).toOption.join.getD 0
  inserted := insertedOffsets changes inside
  enumerators := changedEnumerators changes inside

/-- The difference between a pair of types, given the findings about its parts. -/
def judge (comparison : TypeComparison) (part : TypePart) (inside : Findings) :
    Option TypeDifference :=
  let changes := comparison.first.localChanges comparison.second part.old part.new
  if changes.isEmpty && inside.isEmpty then none
  else
    some ⟨{
      old := part.old
      new := part.new
      oldName := comparison.first.name part.old
      newName := comparison.second.name part.new
      reach := part.reach
      location := (comparison.first.node part.old).location?
      changes := changes
      failure? := comparison.first.sizeFailure? part.old
      suppressedBy := comparison.label? (comparison.factsOf part changes inside) }, inside⟩

/-- The parts of a pair of types. -/
def partsOf (comparison : TypeComparison) (part : TypePart) : List TypePart :=
  TypePart.ofNodes (comparison.first.node part.old) (comparison.second.node part.new) part.reach

/-- How many pairs of types there are. -/
def pairs (comparison : TypeComparison) : Nat := comparison.first.size * comparison.second.size

/-- The number of a pair of types. -/
def number (comparison : TypeComparison) (part : TypePart) : Nat :=
  part.old * comparison.second.size + part.new

theorem number_lt {comparison : TypeComparison} {part : TypePart}
    (inside : part.old < comparison.first.size ∧ part.new < comparison.second.size) :
    comparison.number part < comparison.pairs := by
  have := Nat.mul_le_mul_right comparison.second.size inside.1
  simp only [number, pairs, Nat.succ_mul] at *
  omega

/-- Pairs of types have different numbers. -/
theorem number_inj {comparison : TypeComparison} {left right : TypePart}
    (leftInside : left.new < comparison.second.size)
    (rightInside : right.new < comparison.second.size)
    (same : comparison.number left = comparison.number right) :
    left.old = right.old ∧ left.new = right.new := by
  simp only [number] at same
  have positive : 0 < comparison.second.size := Nat.lt_of_le_of_lt (Nat.zero_le _) leftInside
  have divided (old new : Nat) (inside : new < comparison.second.size) :
      (old * comparison.second.size + new) / comparison.second.size = old := by
    rw [Nat.mul_comm, Nat.mul_add_div positive, Nat.div_eq_of_lt inside, Nat.add_zero]
  have olds := divided left.old left.new leftInside
  rw [same, divided right.old right.new rightInside] at olds
  refine ⟨olds.symm, ?_⟩
  rw [olds] at same
  omega

/-- The key under which the result for a part is remembered. -/
def key (comparison : TypeComparison) (part : TypePart) : Nat :=
  comparison.number part * 3 +
    match part.reach with
    | .direct => 0
    | .pointer => 1
    | .reference => 2

/-- Remembered results. -/
abbrev Memory := Std.TreeMap Nat (Option TypeDifference)

/-- The result for a part, and the depth of the outermost pair at which a circle through it was cut, if
that pair lies above it. -/
structure Outcome where
  difference : Option TypeDifference := none
  cut : Option Nat := none

/-- The outermost of two cuts. -/
def outer : Option Nat → Option Nat → Option Nat
  | none, cut => cut
  | cut, none => cut
  | some left, some right => some (min left right)

/-- The depth at which a trail entered a node. -/
def depthOf (node : Nat) : List Nat → Nat
  | [] => 0
  | entered :: before => if entered = node then before.length else depthOf node before

/-- Puts the result for a part before the findings about the parts beside it. -/
def place (role : String) : Option TypeDifference → Findings → Findings
  | none, beside => beside
  | some difference, beside => .cons role difference.finding difference.inside beside

/-- Compares parts one after the other, each in a given way. -/
def inTurn (compareOne : TypePart → Memory → Outcome × Memory) :
    List TypePart → Memory → Findings × Option Nat × Memory
  | [], memory => (.empty, none, memory)
  | part :: rest, memory =>
    let (outcome, memory) := compareOne part memory
    let (beside, cut, memory) := inTurn compareOne rest memory
    (place part.role outcome.difference beside, outer outcome.cut cut, memory)

/-- Compares a pair of types on a walk that has entered the pairs of a trail. -/
def compareOn (comparison : TypeComparison) (trail : Trail comparison.pairs) (part : TypePart)
    (memory : Memory) : Outcome × Memory :=
  if inside : part.old < comparison.first.size ∧ part.new < comparison.second.size then
    match memory.get? (comparison.key part) with
    | some known => ({ difference := known }, memory)
    | none =>
      if entered : comparison.number part ∈ trail.nodes then
        ({ cut := some (depthOf (comparison.number part) trail.nodes) }, memory)
      else
        let (findings, cut, memory) :=
          inTurn (compareOn comparison (trail.enter _ entered (number_lt inside)))
            (comparison.partsOf part) memory
        let difference := comparison.judge part findings
        let open_ := cut.filter (· < trail.nodes.length)
        (⟨difference, open_⟩,
          if open_.isNone then memory.insert (comparison.key part) difference else memory)
  else ({ difference := comparison.judge part .empty }, memory)
termination_by trail.room
decreasing_by
  exact trail.room_enter entered (number_lt inside)

/-- A computation that remembers the results of comparisons. -/
abbrev Remembering := StateM Memory

/-- Compares two types that are reached in some way. Nothing is found when they do not differ. -/
def compare (comparison : TypeComparison) (old new : Nat) (reach : Reach) :
    Remembering (Option TypeDifference) := fun memory =>
  let (outcome, memory) := compareOn comparison Trail.start ⟨"", old, new, reach⟩ memory
  (outcome.difference, memory)

end TypeComparison

end Abiscope
