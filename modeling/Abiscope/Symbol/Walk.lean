import Abiscope.Symbol.Table

/-!
# Walks over a symbol table

A walk visits the listed symbols that a selection accepts, one by one. It always stands before the next
one, which can be looked at without moving; behind the last one it stays where it is.
-/

namespace Abiscope.Symbol

/-- A walk that has the places in `rest` ahead, the first of which is accepted. -/
structure Walk where
  table : Table
  selection : Selection
  rest : List Nat

namespace Walk

/-- Whether a walk stops at a place. -/
def stopsAt (table : Table) (selection : Selection) (id : Nat) : Bool :=
  (table.symbol? id).any selection.accepts

/-- Skips places at which a walk does not stop. -/
def skip (table : Table) (selection : Selection) (ids : List Nat) : List Nat :=
  ids.dropWhile fun id => !stopsAt table selection id

/-- A walk before its first stop. -/
def start (table : Table) (selection : Selection) : Walk :=
  ⟨table, selection, skip table selection table.listed⟩

/-- The next stop. -/
def peek? (walk : Walk) : Option Nat := walk.rest.head?

/-- Moves over the next stop. -/
def next (walk : Walk) : Option Nat × Walk :=
  match walk.rest with
  | [] => (none, walk)
  | id :: rest => (some id, { walk with rest := skip walk.table walk.selection rest })

/-- Looking ahead shows what moving gives. -/
theorem fst_next (walk : Walk) : walk.next.1 = walk.peek? := by
  unfold next peek?
  split <;> simp_all

/-- Behind its last stop a walk moves no more. -/
theorem next_of_peek?_eq_none {walk : Walk} (ended : walk.peek? = none) :
    walk.next = (none, walk) := by
  unfold next
  split
  · rfl
  · simp_all [peek?]

theorem length_skip (table : Table) (selection : Selection) (ids : List Nat) :
    (skip table selection ids).length ≤ ids.length :=
  (List.dropWhile_suffix _).length_le

/-- Every move over a stop leaves fewer places ahead. -/
theorem length_rest_of_next {walk after : Walk} {id : Nat} (moved : walk.next = (some id, after)) :
    after.rest.length < walk.rest.length := by
  unfold next at moved
  split at moved
  · simp at moved
  · rename_i rest ahead
    rw [← (Prod.mk.inj moved).2, ahead]
    exact Nat.lt_succ_of_le (length_skip _ _ rest)

/-- What looking ahead and moving give at every stop, and once more behind the last one. -/
def steps (walk : Walk) : List (Option Nat × Option Nat) :=
  match _ : walk.next with
  | (none, _) => [(walk.peek?, none)]
  | (some id, after) => (walk.peek?, some id) :: after.steps
termination_by walk.rest.length
decreasing_by exact length_rest_of_next ‹_›

end Walk

end Abiscope.Symbol
