import Abiscope.Proofs.ExactSizes

/-!
# Circles of arrays

Walks along aliases and qualifiers are bounded by the graph, but the element of an array is sized by a call
with a bound of its own. So circles of aliases and qualifiers are given up, and what runs into one has no
size, while calls are nested without end where an array with a known count is met again behind itself.
There is nothing else that keeps sizing from ending: the arrays at which the calls stand are distinct
types of the graph otherwise.
-/

namespace Abiscope.TypeGraph

open Relation (ReflTransGen TransGen)

variable {graph : TypeGraph} {id array : Nat}

/-- The calls that sizing a type makes are nested without an infinite descent. -/
def Descends (graph : TypeGraph) (id : Nat) : Prop :=
  Acc (fun element whole => graph.Asks whole element) id

/-! ## Calls and outcomes -/

/-- Sizing has an outcome if its calls do not descend for ever.

By induction on the calls: what a type asks for has an outcome, from which its own is made. -/
theorem Descends.exists_sizing (descends : graph.Descends id) :
    ∃ outcome, graph.sizing id = some outcome := by
  induction descends with
  | intro id _ inductionHypothesis =>
    cases settles : graph.settled? (graph.size + 1) id with
    | none => exact ⟨.ok none, sizing_of_settled?_eq_none settles⟩
    | some settled =>
      cases repeats : (graph.node settled).repeated? with
      | none => exact ⟨_, sizing_of_repeated?_eq_none settles repeats⟩
      | some each =>
        obtain ⟨outcome, sized⟩ := inductionHypothesis each.1 ⟨settled, each.2, settles, repeats⟩
        have made := sizing_of_repeated?_eq_some settles repeats
        rw [sized] at made
        exact ⟨_, made⟩

/-- Sizing has an outcome only if its calls do not descend for ever. -/
theorem descends_of_sizing {outcome : Except Overflow (Option UInt64)} (sized : graph.sizing id = some outcome) :
    graph.Descends id := by
  refine sizing.partial_correctness graph (fun id _ => graph.Descends id) ?_ id outcome sized
  intro inner inductionHypothesis id outcome made
  refine ⟨_, fun element asks => ?_⟩
  obtain ⟨settled, count, settles, repeats⟩ := asks
  simp only [settles, repeats] at made
  obtain ⟨size, ofElement, _⟩ := Option.bind_eq_some_iff.mp made
  exact inductionHypothesis element size ofElement

/-- If sizing ends, a type has no size exactly if its size rests on no type with a size of its own. A type
whose size rests on one has a size, or a product overflows. -/
theorem Descends.sizing_eq_ok_none_iff (descends : graph.Descends id) :
    graph.sizing id = some (.ok none) ↔
      ∀ other, ReflTransGen graph.RestsOn id other → graph.ownSize? other = none := by
  constructor
  · intro unsized other path
    cases own : graph.ownSize? other with
    | none => rfl
    | some size =>
      obtain ⟨total, exact⟩ := exists_hasSize_iff.mpr ⟨other, path, own ▸ rfl⟩
      rcases exact.exists_sizing with ⟨size, sized⟩ | ⟨overflow, fails⟩
      · rw [unsized] at sized
        cases sized
      · rw [unsized] at fails
        cases fails
  · intro without
    have unsized {other total : Nat} (path : ReflTransGen graph.RestsOn id other)
        (exact : graph.HasSize other total) : False := by
      obtain ⟨last, toLast, own⟩ := exists_hasSize_iff.mp ⟨total, exact⟩
      rw [without last (path.trans toLast)] at own
      contradiction
    obtain ⟨outcome, sized⟩ := descends.exists_sizing
    have accounts := accounts_of_sizing sized
    rcases outcome with overflow | _ | size
    · obtain ⟨array, element, path, repeats, each⟩ := accounts.failed overflow rfl
      exact (unsized path (.repeated repeats each)).elim
    · exact sized
    · exact (unsized .refl (accounts.found size rfl)).elim

/-! ## Arrays that are met again -/

/-- An array with a known count is met again among the types that its size rests on. -/
def Recurs (graph : TypeGraph) (array : Nat) : Prop :=
  (graph.node array).repeated?.isSome ∧ TransGen graph.RestsOn array array

/-- What rests on an array that is met again asks for something that does so as well.

By induction on the way to the array, which is the way of the calls but for aliases and qualifiers. -/
theorem Recurs.exists_asks (recurs : graph.Recurs array) (path : ReflTransGen graph.RestsOn id array) :
    ∃ element, graph.Asks id element ∧ ReflTransGen graph.RestsOn element array := by
  induction path using ReflTransGen.head_induction_on with
  | refl =>
    obtain ⟨each, repeats⟩ := Option.isSome_iff_exists.mp recurs.1
    obtain ⟨next, step, back⟩ := TransGen.head'_iff.mp recurs.2
    have same : next = each.1 := step.unique (.inr ⟨each.2, repeats⟩)
    exact ⟨each.1, asks_of_repeated? repeats, same ▸ back⟩
  | @head id next step path inductionHypothesis =>
    rcases step with leads | ⟨count, repeats⟩
    · obtain ⟨element, asks, toArray⟩ := inductionHypothesis
      exact ⟨element, asks.of_standsFor leads, toArray⟩
    · exact ⟨next, asks_of_repeated? repeats, path⟩

/-- Where calls do not descend for ever, no array is met again. -/
theorem Descends.not_recurs (descends : graph.Descends id)
    (path : ReflTransGen graph.RestsOn id array) : ¬ graph.Recurs array := by
  intro recurs
  induction descends with
  | intro id _ inductionHypothesis =>
    obtain ⟨element, asks, toArray⟩ := recurs.exists_asks path
    exact inductionHypothesis element asks toArray

/-- Where no array is met again, calls are nested no deeper than there is room on a trail of arrays whose
sizes rest on the type.

By induction on the depth: the array at which the walk ends is not on the trail, since it would be met
again, and takes room there. -/
theorem descends_of_room (depth : Nat) (trail : Trail graph.size) (enough : trail.room < depth)
    (leads : ∀ node ∈ trail.nodes, TransGen graph.RestsOn node id)
    (apart : ∀ array, ReflTransGen graph.RestsOn id array → ¬ graph.Recurs array) :
    graph.Descends id := by
  induction depth generalizing id trail with
  | zero => contradiction
  | succ depth inductionHypothesis =>
    refine ⟨_, fun element asks => ?_⟩
    obtain ⟨array, count, settles, repeats⟩ := asks
    have path : ReflTransGen graph.RestsOn id array := reflTransGen_of_settled? settles
    have step : graph.RestsOn array element := .inr ⟨count, repeats⟩
    have entered : array ∉ trail.nodes := fun member =>
      apart array path ⟨repeats ▸ rfl, (leads array member).trans_left path⟩
    have inside : array < graph.size := lt_size_of_repeated? repeats
    refine inductionHypothesis (trail.enter array entered inside) ?_ ?_ ?_
    · exact Nat.lt_of_lt_of_le (trail.room_enter entered inside) (Nat.le_of_lt_succ enough)
    · intro node isOn
      rcases List.mem_cons.mp isOn with rfl | isBefore
      · exact .single step
      · exact ((leads node isBefore).trans_left path).tail step
    · exact fun other behind => apart other (path.trans (.head step behind))

/-! ## When sizing ends -/

/-- Sizing a type ends: its calls do not descend for ever, it has an outcome, be it an overflow, and the outcome
is no size exactly if the size of the type rests on no type with a size of its own. -/
structure EndsSizing (graph : TypeGraph) (id : Nat) : Prop where
  descends : graph.Descends id
  outcome : ∃ outcome, graph.sizing id = some outcome
  unsized : graph.sizing id = some (.ok none) ↔
    ∀ other, ReflTransGen graph.RestsOn id other → graph.ownSize? other = none

/-- Sizing a type ends exactly if its size rests on no array with a known count that is met again behind
itself. -/
theorem endsSizing_iff (graph : TypeGraph) (id : Nat) :
    graph.EndsSizing id ↔ ∀ array, ReflTransGen graph.RestsOn id array → ¬ graph.Recurs array := by
  constructor
  · exact fun ends array path => ends.descends.not_recurs path
  · intro apart
    have descends : graph.Descends id := descends_of_room (graph.size + 1) Trail.start
      (Nat.lt_succ_self _) (fun _ impossible => by contradiction) apart
    exact ⟨descends, descends.exists_sizing, descends.sizing_eq_ok_none_iff⟩

/-- Rows of rows: the name of a row stands for an array of four rows. -/
def rowsOfRows : TypeGraph where
  nodes := #[.array 1 (some 4), .typeAlias "row" 0 none]

/-- The array is met again behind the name of its element, and sizing it does not end. -/
theorem rowsOfRows_not_endsSizing : rowsOfRows.sizing 0 = none ∧ ¬ rowsOfRows.EndsSizing 0 := by
  have recurs : rowsOfRows.Recurs 0 :=
    ⟨rfl, .tail (.single (.inr ⟨4, rfl⟩)) (.inl rfl)⟩
  refine ⟨?_, fun ends => ends.descends.not_recurs .refl recurs⟩
  refine Option.eq_none_iff_forall_ne_some.mpr fun outcome sized => ?_
  exact (descends_of_sizing sized).not_recurs .refl recurs

end Abiscope.TypeGraph
