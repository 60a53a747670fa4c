import Abiscope.TypeGraph.Naming
import Mathlib.Logic.Relation

/-!
# Names of types

A type is named by a recursion that pushes the types being named on a stack, stops with a mark at a type
that is on the stack, and pops each type when its name is complete. The type behind a pointer to a function
is never pushed. Every call still pushes a type that was not on the stack or ends at once, so calls are
nested no deeper than the graph is large, whatever circles it has.

If every circle passes a type that stands under its own name, a type on the stack is never met again: it
leads to all that are named after it, so it would lie on a circle of types that are written out. The same
recursion without a stack then ends too and writes the same names.
-/

namespace Abiscope

/-- Whether a type stands under its own name although it may refer to other types. -/
def TypeNode.standsByName : TypeNode → Bool
  | record _ | enumeration _ | typeAlias .. => true
  | _ => false

namespace TypeGraph

open Relation (TransGen)

/-! ## Naming by plain recursion -/

/-- The name of a type of functions from the names of its result and its parameters, in this order. -/
def functionBy {m : Type → Type} [Monad m] (inner : Nat → m String) (declarator : String)
    (function : FunctionType) : m String := do
  let result ← inner function.result
  let parameters ← function.parameters.mapM inner
  return functionName declarator result parameters function.isVariadic

/-- The name of a type from the names of the types that it is written with. -/
def nameBy {m : Type → Type} [Monad m] (graph : TypeGraph) (inner : Nat → m String) (id : Nat) :
    m String := do
  match graph.node id with
  | .void => return "void"
  | .builtin name _ => return name
  | .typeAlias name _ _ => return name
  | .record record => return record.kind.keyword ++ " " ++ record.name
  | .enumeration enumeration => return "enum " ++ enumeration.name
  | .pointer target =>
    match graph.node target with
    | .function function => functionBy inner "(*)" function
    | _ => return (← inner target) ++ "*"
  | .reference target isRvalue => return (← inner target) ++ (if isRvalue then "&&" else "&")
  | .qualified base qualifiers => return qualifiedName (graph.node base) (← inner base) qualifiers
  | .array element count =>
    let name ← inner element
    match count with
    | some count => return name ++ s!"[{count}]"
    | none => return name ++ "[]"
  | .function function => functionBy inner "" function

/-- The name of a type by calls nested at most to a depth, on a stack of the types that are being named.
Calls beyond the depth fail. -/
def spellGuarded (graph : TypeGraph) : Nat → Nat → StateT (List Nat) Option String
  | 0, _ => failure
  | depth + 1, id => do
    if (← get).contains id then
      return circleMark
    modify (id :: ·)
    let name ← graph.nameBy (graph.spellGuarded depth) id
    modify List.tail
    return name

/-- A call ends at once on a stack that holds its type. Otherwise it pushes the type while the name is
made, and pops what is on top after that. -/
theorem run_spellGuarded_succ (graph : TypeGraph) (depth id : Nat) (stack : List Nat) :
    (graph.spellGuarded (depth + 1) id).run stack =
      if id ∈ stack then some (circleMark, stack)
      else ((graph.nameBy (graph.spellGuarded depth) id).run (id :: stack)).map
        fun made => (made.1, made.2.tail) := by
  rw [spellGuarded, StateT.run_bind, StateT.run_get]
  by_cases entered : id ∈ stack
  · simp [entered]
  · simp only [Option.pure_def, List.contains_eq_mem, decide_eq_true_eq, entered, if_false,
      bind_pure_comp, Option.bind_eq_bind, Option.bind_some, StateT.run_bind, StateT.run_modify,
      StateT.run_map, Option.map_eq_map, Option.map_some]
    exact Option.map_eq_bind.symm

/-- The name of a type by calls nested at most to a depth, without a stack and without a mark. Calls beyond
the depth fail. -/
def spellFreely (graph : TypeGraph) : Nat → Nat → Option String
  | 0, _ => none
  | depth + 1, id => graph.nameBy (graph.spellFreely depth) id

/-- The types whose names stand in the name of a type, each as often as it does. -/
def namedIn (graph : TypeGraph) (id : Nat) : List Nat :=
  match graph.node id with
  | .pointer target =>
    match graph.node target with
    | .function function => function.result :: function.parameters
    | _ => [target]
  | .reference target _ => [target]
  | .qualified base _ => [base]
  | .array element _ => [element]
  | .function function => function.result :: function.parameters
  | _ => []

/-! ## What computations give -/

/-- A relation between computations and what they give, which follows how computations are put together. -/
structure Giving (m : Type → Type) [Monad m] where
  gives : {α : Type} → m α → α → Prop
  ofPure : ∀ {α : Type} (value : α), gives (pure value) value
  ofBind : ∀ {α β : Type} {first : m α} {next : α → m β} {value : α} {result : β},
    gives first value → gives (next value) result → gives (first >>= next) result

/-- A computation that may fail gives what it ends with. -/
def Giving.ending : Giving Option where
  gives first value := first = some value
  ofPure _ := rfl
  ofBind := by
    rintro _ _ _ next _ _ rfl second
    exact second

/-- A computation on a stack gives what it ends with if it leaves the stack as it was. -/
def Giving.balanced (stack : List Nat) : Giving (StateT (List Nat) Option) where
  gives first value := first.run stack = some (value, stack)
  ofPure _ := rfl
  ofBind := by
    intro _ _ first next value result given second
    rw [StateT.run_bind, given]
    exact second

section Parts

variable {m : Type → Type} [Monad m] [LawfulMonad m] (giving : Giving m) {inner : Nat → m String}
  {names : Nat → String}

/-- Computations that give the names of some types give the list of these names. -/
theorem Giving.gives_mapM {parts : List Nat}
    (each : ∀ part ∈ parts, giving.gives (inner part) (names part)) :
    giving.gives (parts.mapM inner) (parts.map names) := by
  induction parts with
  | nil => exact giving.ofPure []
  | cons part rest inductionHypothesis =>
    obtain ⟨first, others⟩ := List.forall_mem_cons.mp each
    rw [List.mapM_cons]
    exact giving.ofBind first (giving.ofBind (inductionHypothesis others) (giving.ofPure _))

/-- The name of a type of functions is given if the names of its result and its parameters are. -/
theorem Giving.gives_functionBy {function : FunctionType} (declarator : String)
    (each : ∀ part ∈ function.result :: function.parameters, giving.gives (inner part) (names part)) :
    giving.gives (functionBy inner declarator function)
      (functionName declarator (names function.result) (function.parameters.map names)
        function.isVariadic) := by
  obtain ⟨result, parameters⟩ := List.forall_mem_cons.mp each
  exact giving.ofBind result (giving.ofBind (giving.gives_mapM parameters) (giving.ofPure _))

variable {graph : TypeGraph} {trail : Trail graph.size} {id : Nat}

/-- The name of a type that is entered is given if the names that stand in it are. -/
theorem Giving.gives_nameBy (entered : id ∉ trail.nodes) (inside : id < graph.size)
    (each : ∀ part ∈ graph.namedIn id,
      giving.gives (inner part) (graph.nameOn (trail.enter id entered inside) part)) :
    giving.gives (graph.nameBy inner id) (graph.nameOn trail id) := by
  have single {part : Nat} {complete : String → String}
      (whole : giving.gives (inner part) (graph.nameOn (trail.enter id entered inside) part)) :
      giving.gives (do return complete (← inner part))
        (complete (graph.nameOn (trail.enter id entered inside) part)) :=
    giving.ofBind whole (giving.ofPure _)
  rw [nameOn, dif_neg entered, dif_pos inside, nameBy]
  rw [namedIn] at each
  cases here : graph.node id with
  | void | builtin _ _ | typeAlias _ _ _ | record _ | enumeration _ => exact giving.ofPure _
  | reference target isRvalue | qualified base qualifiers =>
    rw [here] at each
    exact single (each _ List.mem_cons_self)
  | function function =>
    rw [here] at each
    exact giving.gives_functionBy "" each
  | array element count =>
    rw [here] at each
    cases count <;> exact single (each _ List.mem_cons_self)
  | pointer target =>
    simp only [here] at each ⊢
    cases behind : graph.node target with
    | function function =>
      simp only [behind] at each ⊢
      exact giving.gives_functionBy "(*)" each
    | _ =>
      simp only [behind] at each ⊢
      exact single (each _ List.mem_cons_self)

end Parts

/-! ## Types that are written out -/

/-- A type refers to another one and is not a record, an enumeration or an alias. -/
def WritesOut (graph : TypeGraph) (id part : Nat) : Prop :=
  (graph.node id).standsByName = false ∧ part ∈ graph.references id

variable {graph : TypeGraph} {trail : Trail graph.size} {id : Nat}

/-- A type is written with types that it leads to, directly or as a pointer to a function. -/
theorem writesOut_of_mem_namedIn {part : Nat} (member : part ∈ graph.namedIn id) :
    TransGen graph.WritesOut id part := by
  have direct {id part : Nat} {node : TypeNode} (here : graph.node id = node)
      (isWritten : node.standsByName = false) (refers : part ∈ graph.references id) :
      TransGen graph.WritesOut id part := .single ⟨here ▸ isWritten, refers⟩
  rw [namedIn] at member
  cases here : graph.node id with
  | void | builtin _ _ | typeAlias _ _ _ | record _ | enumeration _ =>
    rw [here] at member
    contradiction
  | reference _ _ | qualified _ _ | array _ _ | function _ =>
    rw [here] at member
    exact direct here rfl (by rw [references, here]; exact member)
  | pointer target =>
    -- A pointer to a function passes over the node of the function, which is on the way all the same.
    have toTarget : TransGen graph.WritesOut id target :=
      direct here rfl (by rw [references, here]; exact List.mem_cons_self)
    simp only [here] at member
    cases behind : graph.node target with
    | function function =>
      simp only [behind] at member
      exact toTarget.trans (direct behind rfl (by rw [references, behind]; exact member))
    | _ =>
      simp only [behind] at member
      exact List.mem_singleton.mp member ▸ toTarget

/-! ## The stack and the depth of the calls -/

/-- On a trail of types that are being named a call gives the name and leaves the stack as it was, if the
calls may be nested deeper than the trail has room.

By induction on the depth: a call that does not end at once enters its type, which takes room. -/
theorem run_spellGuarded (depth : Nat) (trail : Trail graph.size) (id : Nat)
    (enough : trail.room < depth) :
    (graph.spellGuarded depth id).run trail.nodes = some (graph.nameOn trail id, trail.nodes) := by
  induction depth generalizing trail id with
  | zero => contradiction
  | succ depth inductionHypothesis =>
    rw [run_spellGuarded_succ]
    by_cases entered : id ∈ trail.nodes
    · rw [if_pos entered, nameOn, dif_pos entered]
    · rw [if_neg entered]
      by_cases inside : id < graph.size
      · have given : (graph.nameBy (graph.spellGuarded depth) id).run (id :: trail.nodes) =
            some (graph.nameOn trail id, id :: trail.nodes) := by
          refine (Giving.balanced (id :: trail.nodes)).gives_nameBy entered inside fun part _ => ?_
          refine inductionHypothesis (trail.enter id entered inside) part ?_
          exact Nat.lt_of_lt_of_le (trail.room_enter entered inside) (Nat.le_of_lt_succ enough)
        rw [given]
        rfl
      · rw [nameOn, dif_neg entered, dif_neg inside, nameBy, node_of_size_le (Nat.le_of_not_lt inside)]
        rfl

/-- If no circle of types is written out, and those on a trail lead to a type, calls without a stack give
its name on the trail. -/
theorem spellFreely_eq (apart : ∀ id, ¬ TransGen graph.WritesOut id id) (depth : Nat)
    (trail : Trail graph.size) (id : Nat) (enough : trail.room < depth)
    (leads : ∀ node ∈ trail.nodes, TransGen graph.WritesOut node id) :
    graph.spellFreely depth id = some (graph.nameOn trail id) := by
  induction depth generalizing trail id with
  | zero => contradiction
  | succ depth inductionHypothesis =>
    -- A type on the trail would lead back to itself, so the mark is never due.
    have entered : id ∉ trail.nodes := fun member => apart id (leads id member)
    by_cases inside : id < graph.size
    · refine Giving.ending.gives_nameBy entered inside fun part member => ?_
      have next := writesOut_of_mem_namedIn member
      refine inductionHypothesis _ part ?_ ?_
      · exact Nat.lt_of_lt_of_le (trail.room_enter entered inside) (Nat.le_of_lt_succ enough)
      · intro node isOn
        rcases List.mem_cons.mp isOn with rfl | isBefore
        · exact next
        · exact (leads node isBefore).trans next
    · rw [nameOn, dif_neg entered, dif_neg inside, spellFreely, nameBy,
        node_of_size_le (Nat.le_of_not_lt inside)]
      rfl

/-! ## Names -/

/-- Every type has a name, whatever circles the graph has: the calls are nested no deeper than the graph is
large, and leave the stack as it was. If every circle passes a record, an enumeration or an alias, calls
without a stack and without a mark end as well and give the same name. -/
theorem name_eq_spelled (graph : TypeGraph) (depth : Nat) (enough : graph.size < depth) (id : Nat) :
    (graph.spellGuarded depth id).run [] = some (graph.name id, []) ∧
      ((∀ node, ¬ TransGen graph.WritesOut node node) →
        graph.spellFreely depth id = some (graph.name id)) := by
  refine ⟨graph.run_spellGuarded depth Trail.start id enough, fun apart => ?_⟩
  exact spellFreely_eq apart depth Trail.start id enough fun node isOn => by contradiction

/-- A record that points to itself, and a pointer to functions that take and return such pointers. -/
def linkGraph : TypeGraph where
  nodes := #[.record { kind := .structRecord, name := "link", members := [⟨"next", 1, 0⟩] },
    .pointer 0, .function { result := 1, parameters := [1, 1] }, .pointer 2]

/-- The only circle passes the record, so the pointer to functions is named the same without a stack. -/
theorem name_eq_spelled_link :
    linkGraph.size < 5 ∧ (∀ node, ¬ TransGen linkGraph.WritesOut node node) ∧
      (linkGraph.spellGuarded 5 3).run [] = some (linkGraph.name 3, []) ∧
      linkGraph.spellFreely 5 3 = some (linkGraph.name 3) ∧
      linkGraph.name 3 = "struct link* (*)(struct link*, struct link*)" := by
  have falls {node part : Nat} (step : linkGraph.WritesOut node part) : part < node := by
    obtain ⟨isWritten, refers⟩ := step
    by_cases inside : node < linkGraph.size
    · have below : ∀ node < linkGraph.size, (linkGraph.node node).standsByName = false →
          ∀ part ∈ linkGraph.references node, part < node := by decide
      exact below node inside isWritten part refers
    · rw [references, node_of_size_le (Nat.le_of_not_lt inside)] at refers
      contradiction
  have pathFalls {node part : Nat} (path : TransGen linkGraph.WritesOut node part) : part < node := by
    induction path with
    | single step => exact falls step
    | tail _ step inductionHypothesis => exact Nat.lt_trans (falls step) inductionHypothesis
  have apart (node : Nat) : ¬ TransGen linkGraph.WritesOut node node :=
    fun circle => Nat.lt_irrefl node (pathFalls circle)
  obtain ⟨guarded, freely⟩ := linkGraph.name_eq_spelled 5 (by decide) 3
  refine ⟨by decide, apart, guarded, freely apart, ?_⟩
  exact Option.some.inj ((freely apart).symm.trans (by decide +kernel))

end TypeGraph

end Abiscope
