import Std.Data.TreeMap

/-!
# Places by key

The symbols of a table are found by what they have in common, such as their name. A group holds the
places of all symbols of one key, and places are put into their groups one after the other, so that each
group is in the order of the table.
-/

namespace Abiscope.Symbol

/-- Places by key, each list in the order of the table. -/
abbrev Groups (κ : Type) [Ord κ] := Std.TreeMap κ (List Nat)

namespace Groups

variable {κ : Type} [Ord κ]

/-- Puts a place at the end of the group of its key. -/
def add (groups : Groups κ) (key : κ) (id : Nat) : Groups κ :=
  groups.alter key fun group => some (group.getD [] ++ [id])

/-- The group of a key, empty if no place has it. -/
def get (groups : Groups κ) (key : κ) : List Nat := (groups.get? key).getD []

/-- Groups the places of items by the keys that they have. -/
def ofKeys {α : Type} (key? : α → Option κ) (items : List α) : Groups κ :=
  items.zipIdx.foldl
    (fun groups (item, id) =>
      match key? item with
      | some key => groups.add key id
      | none => groups)
    ∅

/-- At first all groups are empty. -/
theorem get_empty [Std.TransOrd κ] (key : κ) : (∅ : Groups κ).get key = [] := by
  simp [get]

/-- A place that is added comes last in its own group and into no other one. -/
theorem get_add [Std.TransOrd κ] [Std.LawfulEqOrd κ] [DecidableEq κ] (groups : Groups κ)
    (added key : κ) (id : Nat) :
    (groups.add added id).get key =
      if added = key then groups.get key ++ [id] else groups.get key := by
  simp only [get, add, Std.TreeMap.get?_eq_getElem?, Std.TreeMap.getElem?_alter,
    Std.LawfulEqOrd.compare_eq_iff_eq]
  split
  case isTrue same => rw [same, Option.getD_some]
  case isFalse => rfl

end Groups

end Abiscope.Symbol
