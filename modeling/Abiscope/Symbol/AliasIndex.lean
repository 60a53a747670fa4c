import Abiscope.Address
import Abiscope.Symbol.Groups

/-!
# Aliases

Symbols that are recorded under one address are aliases of each other. The first of them is the main
one, and the others are linked to it. Symbols are recorded one after the other: an address that is new
gets its main symbol, and any further symbol of it is linked to that one for good.
-/

namespace Abiscope

instance : Ord Address where
  compare left right := compare left.val right.val

namespace Symbol

/-- The main symbols of addresses and what is linked to them. Symbols go by their places. -/
structure AliasIndex where
  /-- The main symbol of every address. -/
  mains : Std.TreeMap Address Nat := ∅
  /-- The main symbol that a further symbol is linked to. -/
  mainOf : Std.TreeMap Nat Nat := ∅
  /-- The further symbols that are linked to a main symbol. -/
  further : Groups Nat := ∅

namespace AliasIndex

/-- The main symbol of the aliases of a symbol, which is the symbol itself if it is not linked. -/
def main (index : AliasIndex) (id : Nat) : Nat := (index.mainOf.get? id).getD id

/-- The other aliases of a symbol, the main one first. -/
def aliases (index : AliasIndex) (id : Nat) : List Nat :=
  (if index.main id = id then [] else [index.main id]) ++
    (index.further.get (index.main id)).filter (· != id)

/-- Records a symbol under an address. -/
def record (index : AliasIndex) (id : Nat) (address : Address) : AliasIndex :=
  match index.mains.get? address with
  | none => { index with mains := index.mains.insert address id }
  | some known =>
    { index with
      mainOf := index.mainOf.insert id (index.main known)
      further := index.further.add (index.main known) id }

/-- Records the symbols that have an address, given by their places in a list of addresses. -/
def ofAddresses (addresses : List (Option Address)) : AliasIndex :=
  addresses.zipIdx.foldl
    (fun index (address, id) =>
      match address with
      | some address => index.record id address
      | none => index)
    {}

end AliasIndex

end Symbol

end Abiscope
