import Abiscope.TypeGraph.Sizing
import Abiscope.TypeGraph.Trail
import Mathlib.Logic.Relation

/-!
# Chains of types that size each other

A type is sized by walking along aliases and qualifiers, at most as many as the graph has types, and by
sizing the element where the walk ends at an array with a known count. The bound cuts no walk short that
ends, since such a walk passes no type twice. So sizing goes one type at a time along the chain of types
that the size rests on, although the walks and the calls divide this chain in another way.
-/

namespace Abiscope.TypeGraph

open Relation (ReflTransGen TransGen)

variable {graph : TypeGraph} {id base element settled bound : Nat} {count : UInt64}

/-! ## Walks along aliases and qualifiers -/

/-- A type is an alias of another one or qualifies it. -/
def StandsFor (graph : TypeGraph) (id base : Nat) : Prop := (graph.node id).base? = some base

/-- Aliases and qualified types are in the graph. -/
theorem StandsFor.inside (leads : graph.StandsFor id base) : id < graph.size := by
  refine lt_size_of_node_ne fun isVoid => ?_
  rw [StandsFor, isVoid] at leads
  contradiction

/-- A walk goes from a type to what it stands for until it ends. -/
theorem reflTransGen_standsFor (settles : graph.settled? bound id = some settled) :
    ReflTransGen graph.StandsFor id settled := by
  induction bound generalizing id with
  | zero => contradiction
  | succ bound inductionHypothesis =>
    cases here : (graph.node id).base? with
    | none =>
      rw [settled?_of_base?_eq_none here] at settles
      exact Option.some.inj settles ▸ .refl
    | some base =>
      rw [settled?_of_base?_eq_some here] at settles
      exact .head here (inductionHypothesis settles)

/-- A walk that ends within a bound ends at the same type within a higher one. -/
theorem settled?_mono (settles : graph.settled? bound id = some settled) {higher : Nat}
    (below : bound ≤ higher) : graph.settled? higher id = some settled := by
  induction bound generalizing id higher with
  | zero => contradiction
  | succ bound inductionHypothesis =>
    obtain ⟨rest, rfl⟩ := Nat.exists_eq_add_of_le' below
    rw [← Nat.add_assoc]
    cases leads : (graph.node id).base? with
    | none =>
      rw [settled?_of_base?_eq_none leads] at settles ⊢
      exact settles
    | some base =>
      rw [settled?_of_base?_eq_some leads] at settles ⊢
      exact inductionHypothesis settles (Nat.le_add_left _ _)

/-- A walk that ends does not come back to its start. -/
theorem not_transGen_standsFor (settles : graph.settled? bound id = some settled) :
    ¬ TransGen graph.StandsFor id id := by
  induction bound generalizing id with
  | zero => contradiction
  | succ bound inductionHypothesis =>
    intro circle
    obtain ⟨base, leads, back⟩ := TransGen.head'_iff.mp circle
    rw [settled?_of_base?_eq_some leads] at settles
    exact inductionHypothesis settles (.tail' back leads)

/-- A walk that ends takes no more steps than there is room on a trail of types that lead to its start.

By induction on the steps: a type on the trail would be passed twice, so every step takes room. -/
theorem settled?_room (settles : graph.settled? bound id = some settled) (trail : Trail graph.size)
    (leads : ∀ node ∈ trail.nodes, TransGen graph.StandsFor node id) :
    graph.settled? (trail.room + 1) id = some settled := by
  induction bound generalizing id trail with
  | zero => contradiction
  | succ bound inductionHypothesis =>
    cases here : (graph.node id).base? with
    | none =>
      rw [settled?_of_base?_eq_none here] at settles ⊢
      exact settles
    | some base =>
      have entered : id ∉ trail.nodes := fun member =>
        not_transGen_standsFor settles (leads id member)
      have inside : id < graph.size := StandsFor.inside here
      rw [settled?_of_base?_eq_some here] at settles ⊢
      refine settled?_mono (inductionHypothesis settles (trail.enter id entered inside) ?_)
        (trail.room_enter entered inside)
      intro node isOn
      rcases List.mem_cons.mp isOn with rfl | isBefore
      · exact .single here
      · exact (leads node isBefore).tail here

/-- Every walk that ends does so within the bound of sizing. -/
theorem settled?_of_settled? (settles : graph.settled? bound id = some settled) :
    graph.settled? (graph.size + 1) id = some settled :=
  settled?_room settles Trail.start fun _ impossible => by contradiction

/-- The walk from an alias or a qualified type ends where the walk from what it stands for ends. -/
theorem settled?_of_standsFor (leads : graph.StandsFor id base) :
    graph.settled? (graph.size + 1) id = graph.settled? (graph.size + 1) base := by
  -- The one walk has a step less left than the other, which matters to no walk that ends.
  cases settles : graph.settled? (graph.size + 1) base with
  | some settled =>
    rw [← settled?_of_base?_eq_some leads] at settles
    exact settled?_of_settled? settles
  | none =>
    cases sooner : graph.settled? (graph.size + 1) id with
    | none => rfl
    | some settled =>
      rw [settled?_of_base?_eq_some leads] at sooner
      rw [settled?_mono sooner (Nat.le_succ _)] at settles
      contradiction

/-! ## What the size of a type rests on -/

/-- The size of a type is made of the size of another one: what an alias or a qualified type stands for, or
the element of an array with a known count. -/
def RestsOn (graph : TypeGraph) (id other : Nat) : Prop :=
  graph.StandsFor id other ∨ ∃ count, (graph.node id).repeated? = some (other, count)

/-- Arrays are neither aliases nor qualified. -/
theorem base?_eq_none_of_repeated? {node : TypeNode} {each : Nat × UInt64}
    (repeats : node.repeated? = some each) : node.base? = none := by
  cases node with
  | array element count => rfl
  | _ => contradiction

/-- Arrays with a known count are in the graph. -/
theorem lt_size_of_repeated? {each : Nat × UInt64}
    (repeats : (graph.node id).repeated? = some each) : id < graph.size := by
  refine lt_size_of_node_ne fun isVoid => ?_
  rw [isVoid] at repeats
  contradiction

/-- The size of a type rests on one type at most. -/
theorem RestsOn.unique {other another : Nat} (left : graph.RestsOn id other)
    (right : graph.RestsOn id another) : other = another := by
  have apart {base : Nat} {each : Nat × UInt64} (leads : graph.StandsFor id base)
      (repeats : (graph.node id).repeated? = some each) : False :=
    Option.some_ne_none base (leads.symm.trans (base?_eq_none_of_repeated? repeats))
  rcases left with leads | ⟨count, repeats⟩ <;> rcases right with leads' | ⟨count', repeats'⟩
  · exact Option.some.inj (leads.symm.trans leads')
  · exact (apart leads repeats').elim
  · exact (apart leads' repeats).elim
  · exact congrArg Prod.fst (Option.some.inj (repeats.symm.trans repeats'))

/-- The size of a type rests on the type at which its walk ends. -/
theorem reflTransGen_of_settled? (settles : graph.settled? bound id = some settled) :
    ReflTransGen graph.RestsOn id settled :=
  (reflTransGen_standsFor settles).lift (fun type => type) fun _ _ leads => .inl leads

/-! ## Sizing one type after the other -/

/-- An alias or a qualified type is sized with the outcome of what it stands for. -/
theorem sizing_of_standsFor (leads : graph.StandsFor id base) :
    graph.sizing id = graph.sizing base := by
  rw [sizing, sizing, settled?_of_standsFor leads]

/-- An array with a known count is sized with the size of its element as often as it counts. -/
theorem sizing_of_repeated? (repeats : (graph.node id).repeated? = some (element, count)) :
    graph.sizing id = (graph.sizing element).map (Except.bind · (sizeOfAll count)) :=
  sizing_of_repeated?_eq_some
    (settled?_of_base?_eq_none (base?_eq_none_of_repeated? repeats) _) repeats

/-- A type with a size of its own is sized with this size. -/
theorem sizing_of_ownSize? {size : UInt64} (itself : graph.ownSize? id = some size) :
    graph.sizing id = some (.ok (some size)) := by
  have single : (graph.node id).base? = none ∧ (graph.node id).repeated? = none := by
    rw [ownSize?] at itself
    cases here : graph.node id with
    | builtin _ _ | pointer _ | reference _ _ | record _ | enumeration _ => exact ⟨rfl, rfl⟩
    | void | qualified _ _ | typeAlias _ _ _ | array _ _ | function _ =>
      rw [here] at itself
      contradiction
  rw [sizing_of_repeated?_eq_none (settled?_of_base?_eq_none single.1 _) single.2, itself]

/-! ## Calls -/

/-- Sizing a type calls for the size of another one: of the element of the array at which its walk ends. -/
def Asks (graph : TypeGraph) (id element : Nat) : Prop :=
  ∃ settled count, graph.settled? (graph.size + 1) id = some settled ∧
    (graph.node settled).repeated? = some (element, count)

/-- An alias or a qualified type asks for what the type that it stands for asks for. -/
theorem Asks.of_standsFor (asks : graph.Asks base element) (leads : graph.StandsFor id base) :
    graph.Asks id element := by
  obtain ⟨settled, count, settles, repeats⟩ := asks
  exact ⟨settled, count, (settled?_of_standsFor leads).trans settles, repeats⟩

/-- An array with a known count asks for its element. -/
theorem asks_of_repeated? (repeats : (graph.node id).repeated? = some (element, count)) :
    graph.Asks id element :=
  ⟨id, count, settled?_of_base?_eq_none (base?_eq_none_of_repeated? repeats) _, repeats⟩

end Abiscope.TypeGraph
