import Abiscope.TypeGraph.Basic

/-!
# Sizes of types

Aliases and qualifiers have the size of what they stand for, and an array with a known count the size of
its element as often as it counts. Types without values, functions, arrays without a count, and circles of
aliases and qualifiers have no size.

There are two ways to fail. Sizes are words of 64 bits, and a product that no word holds ends the sizing
of every type that is made of it. And sizing may not end: a walk along aliases and qualifiers that ends
takes no more steps than the graph has types, so a longer one is given up, but the element of an array is
sized by recursion, and nothing stops it where the element leads back to the array. The first failure is
an outcome of its own, the second one has no outcome.
-/

namespace Abiscope

namespace TypeNode

/-- What an alias or a qualified type stands for. -/
def base? : TypeNode → Option Nat
  | qualified base _ | typeAlias _ base _ => some base
  | _ => none

/-- The element of an array with a known count, with the count. -/
def repeated? : TypeNode → Option (Nat × UInt64)
  | array element (some count) => some (element, count)
  | _ => none

end TypeNode

namespace TypeGraph

/-- The size of a type that is not made of the size of another one. -/
def ownSize? (graph : TypeGraph) (id : Nat) : Option UInt64 :=
  match graph.node id with
  | .builtin _ size => some size
  | .pointer _ | .reference .. => some graph.pointerSize
  | .record record => some record.size
  | .enumeration enumeration => some enumeration.size
  | .void | .function _ | .array .. | .qualified .. | .typeAlias .. => none

/-- The type at which a walk along aliases and qualifiers ends, if it takes fewer steps than a bound. -/
def settled? (graph : TypeGraph) : Nat → Nat → Option Nat
  | 0, _ => none
  | bound + 1, id =>
    match (graph.node id).base? with
    | some base => settled? graph bound base
    | none => some id

/-- A walk ends at a type that is neither an alias nor qualified. -/
theorem settled?_of_base?_eq_none {graph : TypeGraph} {id : Nat}
    (isLast : (graph.node id).base? = none) (bound : Nat) :
    graph.settled? (bound + 1) id = some id := by
  rw [settled?, isLast]

/-- A walk goes on from an alias or a qualified type to what it stands for. -/
theorem settled?_of_base?_eq_some {graph : TypeGraph} {id base : Nat}
    (leads : (graph.node id).base? = some base) (bound : Nat) :
    graph.settled? (bound + 1) id = graph.settled? bound base := by
  rw [settled?, leads]

/-- A product of a size and a count that no word holds. -/
structure Overflow where
  size : UInt64
  count : UInt64
  isTooLarge : UInt64.size ≤ size.toNat * count.toNat
deriving DecidableEq, Repr

/-- The size of a number of elements, if one of them has a size. -/
def sizeOfAll (count : UInt64) : Option UInt64 → Except Overflow (Option UInt64)
  | none => .ok none
  | some size =>
    if fits : size.toNat * count.toNat < UInt64.size then .ok (some (.ofNatLT _ fits))
    else .error ⟨size, count, Nat.le_of_not_lt fits⟩

/-- A product that a word holds is found. -/
theorem sizeOfAll_of_lt {size count : UInt64} (fits : size.toNat * count.toNat < UInt64.size) :
    sizeOfAll count (some size) = .ok (some (.ofNatLT _ fits)) := by
  rw [sizeOfAll, dif_pos fits]

/-- What is found is the product. -/
theorem toNat_of_sizeOfAll {size? : Option UInt64} {count whole : UInt64}
    (found : sizeOfAll count size? = .ok (some whole)) :
    ∃ size, size? = some size ∧ whole.toNat = size.toNat * count.toNat := by
  cases size? with
  | none => cases found
  | some size =>
    rw [sizeOfAll] at found
    split at found
    case isTrue fits =>
      cases found
      exact ⟨size, rfl, UInt64.toNat_ofNatLT⟩
    case isFalse => contradiction

/-- What overflows is the product. -/
theorem eq_of_sizeOfAll_eq_error {size? : Option UInt64} {count : UInt64} {overflow : Overflow}
    (fails : sizeOfAll count size? = .error overflow) :
    size? = some overflow.size ∧ count = overflow.count := by
  cases size? with
  | none => cases fails
  | some size =>
    rw [sizeOfAll] at fails
    split at fails
    case isTrue => contradiction
    case isFalse =>
      cases fails
      exact ⟨rfl, rfl⟩

/-- Sizes a type. The outcome is no size for some types, and an overflow for others; where sizing does not
end there is no outcome. -/
def sizing (graph : TypeGraph) (id : Nat) : Option (Except Overflow (Option UInt64)) :=
  match graph.settled? (graph.size + 1) id with
  | none => some (.ok none)
  | some settled =>
    match (graph.node settled).repeated? with
    | some (element, count) => do
      let each ← graph |>.sizing element
      return each.bind (sizeOfAll count)
    | none => some (.ok (graph.ownSize? settled))
partial_fixpoint

variable {graph : TypeGraph} {id settled : Nat}

/-- A type has no size if the walk from it does not end within the bound. -/
theorem sizing_of_settled?_eq_none (unsettled : graph.settled? (graph.size + 1) id = none) :
    graph.sizing id = some (.ok none) := by
  rw [sizing, unsettled]

/-- A type has the size of the type at which the walk ends, if that is not an array with a known count. -/
theorem sizing_of_repeated?_eq_none (settles : graph.settled? (graph.size + 1) id = some settled)
    (single : (graph.node settled).repeated? = none) :
    graph.sizing id = some (.ok (graph.ownSize? settled)) := by
  rw [sizing, settles]
  simp only [single]

/-- If the walk ends at an array with a known count, a type has the size of its element as often as it
counts, once the element is sized. -/
theorem sizing_of_repeated?_eq_some {element : Nat} {count : UInt64}
    (settles : graph.settled? (graph.size + 1) id = some settled)
    (repeats : (graph.node settled).repeated? = some (element, count)) :
    graph.sizing id = (graph.sizing element).map (Except.bind · (sizeOfAll count)) := by
  rw [sizing, settles]
  simp only [repeats]
  cases graph.sizing element <;> rfl

/-- Why a type is not sized. -/
inductive SizeFailure where
  /-- Sizing does not end. -/
  | endless
  /-- A product that the size is made of is too large. -/
  | overflow (overflow : Overflow)
deriving DecidableEq, Repr

/-- What the program dies of. -/
def SizeFailure.message : SizeFailure → String
  | endless => "stack overflow"
  | overflow _ => "attempt to multiply with overflow"

/-- The size of a type in bits. Where sizing does not end, evaluating this does not end either. -/
def sizeOf? (graph : TypeGraph) (id : Nat) : Except SizeFailure (Option UInt64) :=
  match graph.sizing id with
  | none => .error .endless
  | some outcome => outcome.mapError .overflow

/-- Why the size of a type is not found, if it is not. -/
def sizeFailure? (graph : TypeGraph) (id : Nat) : Option SizeFailure :=
  match graph.sizeOf? id with
  | .ok _ => none
  | .error failure => some failure

end TypeGraph

end Abiscope
