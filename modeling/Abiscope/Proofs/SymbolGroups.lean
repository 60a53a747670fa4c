import Abiscope.Symbol.Groups
import Mathlib.Data.List.Induction
import Mathlib.Order.Bounds.Basic

/-!
# Symbols by key

The group of a key holds exactly the places of the items that have the key, in ascending order. Items are
put into their groups one by one, and each of them comes behind all that are there: a list that is longer
by one item has one more place, the last one, in the group of that item's key.
-/

namespace Abiscope.Symbol

variable {κ : Type} [DecidableEq κ]

/-- The places at which a key stands in a list of keys. -/
def placesOf (keys : List (Option κ)) (key : κ) : List Nat :=
  (List.range keys.length).filter fun place => keys[place]? == some (some key)

/-- A place is among those of a key exactly if the key stands there. -/
theorem mem_placesOf (keys : List (Option κ)) (key : κ) (place : Nat) :
    place ∈ placesOf keys key ↔ keys[place]? = some (some key) := by
  rw [placesOf, List.mem_filter, beq_iff_eq, List.mem_range, and_iff_right_iff_imp]
  intro held
  exact (List.getElem?_eq_some_iff.mp held).1

/-- Places are in the order of the list. -/
theorem pairwise_placesOf (keys : List (Option κ)) (key : κ) :
    (placesOf keys key).Pairwise (· < ·) :=
  List.pairwise_lt_range.filter _

/-- A further item adds its place to those of its own key. -/
theorem placesOf_append (keys : List (Option κ)) (last : Option κ) (key : κ) :
    placesOf (keys ++ [last]) key =
      if last = some key then placesOf keys key ++ [keys.length] else placesOf keys key := by
  have before : (List.range keys.length).filter (fun place =>
      (keys ++ [last])[place]? == some (some key)) = placesOf keys key := by
    refine List.filter_congr fun place member => ?_
    rw [List.getElem?_append_left (List.mem_range.mp member)]
  rw [placesOf, List.length_append, List.length_singleton, List.range_succ, List.filter_append, before]
  by_cases same : last = some key
  · simp [same]
  · simp [same]

/-- A further item with a key adds its place to those of the key. -/
theorem placesOf_append_self (keys : List (Option κ)) (key : κ) :
    placesOf (keys ++ [some key]) key = placesOf keys key ++ [keys.length] := by
  rw [placesOf_append, if_pos rfl]

/-- A further item with a key leaves the places of other keys as they are. -/
theorem placesOf_append_of_ne (keys : List (Option κ)) {key other : κ} (differs : key ≠ other) :
    placesOf (keys ++ [some key]) other = placesOf keys other := by
  rw [placesOf_append, if_neg]
  exact fun same => differs (Option.some.inj same)

/-- The first place of a key is the one before which the key does not stand. -/
theorem head?_placesOf_eq_some_iff (keys : List (Option κ)) (key : κ) (first : Nat) :
    (placesOf keys key).head? = some first ↔
      keys[first]? = some (some key) ∧ ∀ earlier < first, keys[earlier]? ≠ some (some key) := by
  rw [placesOf, List.head?_filter, List.find?_range_eq_some, beq_iff_eq, List.mem_range]
  simp only [Bool.not_eq_true', beq_eq_false_iff_ne]
  refine and_congr_right fun held => and_iff_right ?_
  exact (List.getElem?_eq_some_iff.mp held).1

/-- The first place of a key is the least one. -/
theorem isLeast_of_head?_placesOf {keys : List (Option κ)} {key : κ} {first : Nat}
    (head : (placesOf keys key).head? = some first) :
    IsLeast {place | keys[place]? = some (some key)} first := by
  obtain ⟨held, none⟩ := (head?_placesOf_eq_some_iff keys key first).mp head
  exact ⟨held, fun place other => Nat.not_lt.mp fun earlier => none place earlier other⟩

/-- The first place of a key lies in the list. -/
theorem lt_length_of_head?_placesOf {keys : List (Option κ)} {key : κ} {first : Nat}
    (head : (placesOf keys key).head? = some first) : first < keys.length :=
  (List.getElem?_eq_some_iff.mp (isLeast_of_head?_placesOf head).1).1

/-- When the place of a further item comes behind those of a key, another place is the first one exactly if
it was the first one before. -/
theorem head?_append_length_iff (keys : List (Option κ)) (key : κ) (first : Nat) :
    (placesOf keys key ++ [keys.length]).head? = some first ∧ first ≠ keys.length ↔
      (placesOf keys key).head? = some first := by
  constructor
  · rintro ⟨head, another⟩
    cases places : placesOf keys key with
    | nil =>
      rw [places] at head
      exact absurd (Option.some.inj head).symm another
    | cons one rest => rwa [places] at head
  · intro head
    refine ⟨?_, (lt_length_of_head?_placesOf head).ne⟩
    rw [List.head?_append, head, Option.some_or]

namespace Groups

variable [Ord κ] {α : Type}

omit [DecidableEq κ] in
/-- A further item without a key is put into no group. -/
theorem ofKeys_append_of_none (key? : α → Option κ) {item : α} (unkeyed : key? item = none)
    (items : List α) : ofKeys key? (items ++ [item]) = ofKeys key? items := by
  rw [ofKeys, List.zipIdx_append, List.foldl_append, ← ofKeys]
  simp [unkeyed]

omit [DecidableEq κ] in
/-- A further item is put at the end of the group of its key. -/
theorem ofKeys_append_of_some (key? : α → Option κ) {item : α} {key : κ} (keyed : key? item = some key)
    (items : List α) : ofKeys key? (items ++ [item]) = (ofKeys key? items).add key items.length := by
  rw [ofKeys, List.zipIdx_append, List.foldl_append, ← ofKeys]
  simp [keyed]

/-- The group of a key is the list of its places. -/
theorem get_ofKeys [Std.TransOrd κ] [Std.LawfulEqOrd κ] (key? : α → Option κ) (items : List α)
    (key : κ) : (Groups.ofKeys key? items).get key = placesOf (items.map key?) key := by
  induction items using List.reverseRecOn with
  | nil => exact get_empty key
  | append_singleton items item inductionHypothesis =>
    rw [List.map_append, List.map_singleton, placesOf_append, List.length_map, ← inductionHypothesis]
    cases keyed : key? item with
    | none => rw [ofKeys_append_of_none key? keyed, if_neg (Option.some_ne_none key).symm]
    | some own => simp only [ofKeys_append_of_some key? keyed, get_add, Option.some.injEq]

end Groups

end Abiscope.Symbol
