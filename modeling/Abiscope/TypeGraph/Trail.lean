/-!
# Trails through a graph

A trail is the list of nodes that a walk has entered and not left. No node is on it twice, so it is
never longer than the graph, and a walk that enters only nodes off the trail ends.
-/

namespace Abiscope

/-- Distinct numbers below a bound are at most as many as the bound. -/
theorem length_le_of_nodup_of_lt {numbers : List Nat} {bound : Nat} (distinct : numbers.Nodup)
    (below : ∀ number ∈ numbers, number < bound) : numbers.length ≤ bound := by
  induction bound generalizing numbers with
  | zero =>
    cases numbers with
    | nil => simp
    | cons number rest => exact absurd (below number (by simp)) (by omega)
  | succ bound step =>
    have shorter := step (distinct.erase bound) (by
      intro number member
      have differs := (distinct.mem_erase_iff.mp member).1
      have := below number (List.mem_of_mem_erase member)
      omega)
    have := List.length_erase (a := bound) (l := numbers)
    split at this <;> omega

/-- The nodes that a walk through a graph of a given size has entered and not left, last first. -/
structure Trail (size : Nat) where
  nodes : List Nat := []
  distinct : nodes.Nodup := by simp
  below : ∀ node ∈ nodes, node < size := by simp

namespace Trail

variable {size : Nat}

/-- The trail before the first step. -/
def start : Trail size := {}

/-- Enters a node that is not on the trail. -/
def enter (trail : Trail size) (node : Nat) (fresh : node ∉ trail.nodes) (inside : node < size) :
    Trail size where
  nodes := node :: trail.nodes
  distinct := List.nodup_cons.mpr ⟨fresh, trail.distinct⟩
  below := by
    intro entered member
    rcases List.mem_cons.mp member with same | before
    · omega
    · exact trail.below entered before

/-- How many nodes are off the trail. -/
def room (trail : Trail size) : Nat := size - trail.nodes.length

/-- Every step takes room. -/
theorem room_enter (trail : Trail size) {node : Nat} (fresh : node ∉ trail.nodes)
    (inside : node < size) : (trail.enter node fresh inside).room < trail.room := by
  have longest := length_le_of_nodup_of_lt (trail.enter node fresh inside).distinct
    (trail.enter node fresh inside).below
  simp only [room, enter, List.length_cons] at longest ⊢
  omega

end Trail

end Abiscope
