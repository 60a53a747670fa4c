import Abiscope.Difference.Statistics
import Abiscope.Proofs.MatchingTypes

/-!
# A corpus and itself

When a corpus is compared with itself, every declaration meets itself under its key, nothing is on one
side only, and symbols do not differ. What may be found are changes of types: a record is compared with
itself name by name, and of several members of one name each is held against the first. So members that
share a name, as those without a name do, count as moved or changed unless they agree, and so do
enumerators of one name with different values.

This is all that can be found. A corpus has no changes against itself exactly if namesakes agree in every
type that the declarations which take part lead to.
-/

namespace Abiscope

/-! ## Types with namesakes -/

/-- A type leads to the types that it refers to, unless it is a record that is only declared. -/
def TypeGraph.Leads (graph : TypeGraph) (type inner : Nat) : Prop :=
  inner ∈ graph.references type ∧
    ∀ record, graph.node type = .record record → record.isDeclaration = false

/-- Members of one name have one offset and types that agree, and enumerators of one name have one
value. -/
def TypeNode.NamesakesAgree (agree : Nat → Nat → Prop) : TypeNode → Prop
  | .record declared => declared.isDeclaration = false →
    ∀ one ∈ declared.members, ∀ other ∈ declared.members, one.name = other.name →
      one.offset = other.offset ∧ agree one.type other.type
  | .enumeration declared =>
    ∀ one ∈ declared.enumerators, ∀ other ∈ declared.enumerators, one.name = other.name →
      one.value = other.value
  | _ => True

/-- A type whose namesakes agree matches itself. -/
theorem TypeNode.NamesakesAgree.matches_self {agree : Nat → Nat → Prop} {node : TypeNode}
    (namesakes : node.NamesakesAgree agree) : node.Matches node := by
  cases node with
  | void => exact .void
  | builtin => exact .builtin _ _
  | pointer => exact .pointer _ _
  | reference => exact .reference _ _ _
  | qualified => exact .qualified _ _ _
  | typeAlias => exact .typeAlias _ _ _ _ _
  | array => exact .array _ _ _
  | record declared =>
    refine .record ⟨rfl, rfl, rfl, fun _ => rfl, fun complete member inside => ?_,
      fun _ _ => Record.exists_member?⟩
    obtain ⟨counterpart, named⟩ := Record.exists_member? inside
    obtain ⟨counterpartInside, sameName⟩ := Record.member?_eq_some named
    exact ⟨counterpart, named,
      (namesakes complete member inside counterpart counterpartInside sameName.symm).1⟩
  | enumeration declared =>
    refine .enumeration ⟨rfl, rfl, fun enumerator inside => ?_,
      fun _ => Enumeration.exists_enumerator?⟩
    obtain ⟨counterpart, named⟩ := Enumeration.exists_enumerator? inside
    obtain ⟨counterpartInside, sameName⟩ := Enumeration.enumerator?_eq_some named
    exact ⟨counterpart, named,
      namesakes enumerator inside counterpart counterpartInside sameName.symm⟩
  | function => exact .function rfl rfl

namespace TypeComparison

variable {comparison : TypeComparison} {type third inner : Nat}

/-- Members of one name in a type agree if their types do not differ. -/
def Consistent (comparison : TypeComparison) (type : Nat) : Prop :=
  (comparison.first.node type).NamesakesAgree fun one other =>
    comparison.withinFirst.Unchanged (one, other)

/-- A type that does not differ from another one leads to types that each do not differ from what the
other one leads to. -/
theorem Unchanged.leads (unchanged : comparison.Unchanged (type, third))
    (leads : comparison.first.Leads type inner) :
    ∃ counterpart, comparison.Unchanged (inner, counterpart) := by
  suffices found : ∃ counterpart, comparison.Steps (type, third) (inner, counterpart) by
    obtain ⟨counterpart, step⟩ := found
    exact ⟨counterpart, unchanged.step step⟩
  obtain ⟨refers, known⟩ := leads
  have agree := unchanged.nodes
  rw [TypeGraph.references] at refers
  simp only [Steps]
  generalize comparison.first.node type = one, comparison.second.node third = other at *
  cases agree with
  | void | builtin | enumeration _ => cases refers
  | pointer _ new | reference _ new _ | qualified _ new _ | typeAlias _ _ new _ _
  | array _ new _ =>
    cases List.mem_singleton.mp refers
    exact ⟨new, List.mem_singleton_self _⟩
  | @record old new agree =>
    obtain ⟨member, inside, rfl⟩ := List.mem_map.mp refers
    have complete := known old rfl
    obtain ⟨counterpart, named, _⟩ := agree.kept complete member inside
    exact ⟨counterpart.type, mem_ofRecords_of_matches agree complete inside named⟩
  | @function old new count _ =>
    rcases List.mem_cons.mp refers with rfl | parameter
    · exact ⟨new.result, List.mem_cons_self⟩
    · obtain ⟨index, inside, rfl⟩ := List.getElem_of_mem parameter
      exact ⟨new.parameters[index], mem_ofFunctions_of_lt inside (count ▸ inside)⟩

/-- In a type that does not differ from another one namesakes agree. -/
theorem Unchanged.consistent (unchanged : comparison.Unchanged (type, third)) :
    comparison.Consistent type := by
  have agree := unchanged.nodes
  have step {child : Nat × Nat} (member : child ∈ (TypePart.ofNodes (comparison.first.node type)
      (comparison.second.node third) .direct).map TypePart.pair) : comparison.Unchanged child :=
    unchanged.step member
  rw [Consistent]
  generalize comparison.first.node type = node, comparison.second.node third = other at *
  cases agree with
  | @record old new agree =>
    intro complete one oneInside other otherInside sameName
    obtain ⟨counterpart, named, oneOffset⟩ := agree.kept complete one oneInside
    obtain ⟨again, namedAgain, otherOffset⟩ := agree.kept complete other otherInside
    rw [← sameName, named, Option.some_inj] at namedAgain
    subst namedAgain
    have left : comparison.Unchanged (one.type, counterpart.type) :=
      step (mem_ofRecords_of_matches agree complete oneInside named)
    have right : comparison.Unchanged (other.type, counterpart.type) :=
      step (mem_ofRecords_of_matches agree complete otherInside (sameName ▸ named))
    exact ⟨oneOffset.trans otherOffset.symm, left.of_shared right⟩
  | enumeration agree =>
    intro one oneInside other otherInside sameName
    obtain ⟨counterpart, named, oneValue⟩ := agree.kept one oneInside
    obtain ⟨again, namedAgain, otherValue⟩ := agree.kept other otherInside
    rw [← sameName, named, Option.some_inj] at namedAgain
    rw [oneValue, otherValue, namedAgain]
  | void | builtin | pointer | reference | qualified | typeAlias | array | function => trivial

/-- Held against itself, a type whose namesakes agree leads to types held against themselves, and to
types of namesakes. -/
theorem Consistent.step (consistent : comparison.Consistent type) {child : Nat × Nat}
    (step : comparison.withinFirst.Steps (type, type) child) :
    child.1 = child.2 ∧ comparison.first.Leads type child.1 ∨
      comparison.withinFirst.Unchanged child := by
  rw [Consistent] at consistent
  simp only [TypeGraph.Leads, TypeGraph.references, Steps, withinFirst] at step ⊢
  generalize comparison.first.node type = node at *
  cases node with
  | void | builtin | enumeration _ => cases step
  | pointer | reference | qualified | typeAlias | array =>
    cases List.mem_singleton.mp step
    exact Or.inl ⟨rfl, List.mem_singleton_self _, fun _ impossible => TypeNode.noConfusion impossible⟩
  | record record =>
    obtain ⟨both, member, inside, counterpart, named, rfl⟩ := (mem_ofRecords_iff _ _ _).mp step
    rw [Record.bothComplete, Bool.and_self, Bool.not_eq_true'] at both
    obtain ⟨counterpartInside, sameName⟩ := Record.member?_eq_some named
    exact Or.inr (consistent both member inside counterpart counterpartInside sameName.symm).2
  | function function =>
    refine Or.inl ?_
    rcases (mem_ofFunctions_iff _ _ _).mp step with rfl | parameters
    · exact ⟨rfl, List.mem_cons_self, fun _ impossible => TypeNode.noConfusion impossible⟩
    · obtain ⟨index, inside, rfl⟩ := List.getElem_of_mem parameters
      rw [List.getElem_zip]
      exact ⟨rfl, List.mem_cons_of_mem _ (List.getElem_mem _),
        fun _ impossible => TypeNode.noConfusion impossible⟩

/-- A type does not differ from itself exactly if namesakes agree in all that it leads to.

Proof: what a type leads to that does not differ from itself, does not differ from something, and this
makes namesakes agree. Conversely a type is only ever held against itself, until namesakes are met, and
these agree. -/
theorem unchanged_self_iff (comparison : TypeComparison) (type : Nat) :
    comparison.withinFirst.Unchanged (type, type) ↔
      ∀ inner, Relation.ReflTransGen comparison.first.Leads type inner →
        comparison.Consistent inner := by
  constructor
  · intro unchanged inner path
    suffices found : ∃ counterpart, comparison.withinFirst.Unchanged (inner, counterpart) by
      obtain ⟨counterpart, unchanged⟩ := found
      exact unchanged.consistent
    induction path with
    | refl => exact ⟨type, unchanged⟩
    | tail _ leads inductionHypothesis =>
      obtain ⟨counterpart, unchanged⟩ := inductionHypothesis
      exact unchanged.leads leads
  · intro consistent
    refine unchanged_of_invariant (fun pair =>
      (pair.1 = pair.2 ∧ ∀ inner, Relation.ReflTransGen comparison.first.Leads pair.1 inner →
        comparison.Consistent inner) ∨ comparison.withinFirst.Unchanged pair) ?_ ?_
      (Or.inl ⟨rfl, consistent⟩)
    · rintro ⟨one, other⟩ (⟨same, consistent⟩ | unchanged)
      · obtain rfl : one = other := same
        exact (changesAt_eq_nil_iff _ _).mpr (consistent one .refl).matches_self
      · exact unchanged _ .refl
    · rintro ⟨one, other⟩ child (⟨same, consistent⟩ | unchanged) step
      · obtain rfl : one = other := same
        refine ((consistent one .refl).step step).imp_left ?_
        rintro ⟨same, leads⟩
        exact ⟨same, fun inner path => consistent inner (.head leads path)⟩
      · exact Or.inr (unchanged.step step)

end TypeComparison

/-! ## The whole -/

namespace Side

/-- The types of a function: of its result and its parameters. -/
def functionTypes (function : FunctionDeclaration) : List Nat :=
  function.result :: function.parameters.map Parameter.type

/-- A function or variable that takes part in a comparison has a type. -/
def Uses (side : Side) (type : Nat) : Prop :=
  (∃ key bound, side.functions.get? key = some bound ∧ type ∈ functionTypes bound.1) ∨
    ∃ key bound, side.globals.get? key = some bound ∧ type = bound.1.type

end Side

namespace Difference

/-- A difference has no changes exactly if the binaries have none and all its lists are empty. -/
theorem hasChanges_eq_false_iff (difference : Difference) :
    difference.hasChanges = false ↔ difference.hasBinaryChanges = false ∧
      (difference.removedFunctions = [] ∧ difference.addedFunctions = [] ∧
        difference.changedFunctions = []) ∧
      (difference.removedVariables = [] ∧ difference.addedVariables = [] ∧
        difference.changedVariables = []) ∧
      (difference.removedFunctionSymbols = [] ∧ difference.addedFunctionSymbols = []) ∧
      difference.removedVariableSymbols = [] ∧ difference.addedVariableSymbols = [] := by
  simp only [hasChanges, statistics, Statistics.counts, ChangeCount.of, List.any_cons, List.any_nil,
    Bool.or_eq_false_iff, decide_eq_false_iff_not, Nat.not_lt, Nat.le_zero, List.length_eq_zero_iff,
    and_true, and_assoc]

/-- Without changes there is nothing to report. -/
theorem status_of_hasChanges_eq_false {difference : Difference}
    (unchanged : difference.hasChanges = false) : difference.status = {} := by
  obtain ⟨binary, ⟨removed, added, changed⟩, ⟨removedGlobals, addedGlobals, changedGlobals⟩,
    ⟨removedSymbols, addedSymbols⟩, removedGlobalSymbols, addedGlobalSymbols⟩ :=
      (hasChanges_eq_false_iff difference).mp unchanged
  have compatible : difference.isIncompatible = false := by
    rw [isIncompatible, removed, removedGlobals, removedSymbols, removedGlobalSymbols]
    rfl
  have silent : difference.isReportable = false := by
    rw [isReportable, binary, compatible, added, addedGlobals, addedSymbols, addedGlobalSymbols,
      changed, changedGlobals]
    rfl
  rw [status, silent, compatible]

/-- A value does not differ from itself. -/
theorem ifDiffer_self {α : Type} [BEq α] [LawfulBEq α] (value : α) : ifDiffer value value = none := by
  rw [ifDiffer, beq_self_eq_true, if_pos rfl]

/-- A list misses nothing of itself. -/
theorem missing_self (names : List String) : missing names names = [] := by
  rw [missing, List.filter_eq_nil_iff]
  intro name member
  rw [List.contains_iff_mem.mpr member]
  exact Bool.false_ne_true

/-- Nothing is in a map and not in it. -/
theorem onlyIn_self {δ ε : Type} (entity : String → δ → ε) (map : Std.TreeMap String δ) :
    onlyIn entity map map = [] := by
  rw [List.eq_nil_iff_forall_not_mem]
  intro entry member
  obtain ⟨key, bound, held, lacking, _⟩ := (mem_onlyIn entity map map entry).mp member
  rw [Std.TreeMap.contains_eq_isSome_getElem?, ← Std.TreeMap.get?_eq_getElem?, held] at lacking
  contradiction

/-- No symbols are in an interface and not in it. -/
theorem unreferenced_self (context : Suppression.Context) (change : Suppression.Changes)
    (side : Side) : unreferenced context change side side = [] := by
  rw [List.eq_nil_iff_forall_not_mem]
  intro entry member
  obtain ⟨idString, place, symbol, held, _, lacking, _⟩ :=
    (mem_unreferenced context change side side entry).mp member
  rw [Std.TreeMap.contains_eq_isSome_getElem?, ← Std.TreeMap.get?_eq_getElem?, held] at lacking
  contradiction

/-- What is in both a map and itself are its entries, each with itself. -/
theorem mem_inBoth_self {δ : Type} (map : Std.TreeMap String δ) (item : String × δ × δ) :
    item ∈ inBoth map map ↔ ∃ bound, map.get? item.1 = some bound ∧ item = (item.1, bound, bound) := by
  obtain ⟨key, old, new⟩ := item
  rw [mem_inBoth]
  constructor
  · rintro ⟨held, found⟩
    obtain rfl : old = new := Option.some.inj (held.symm.trans found)
    exact ⟨old, held, rfl⟩
  · rintro ⟨bound, held, same⟩
    obtain ⟨rfl, rfl⟩ := Prod.mk.inj (Prod.mk.inj same).2
    exact ⟨held, held⟩

/-- A function held against itself has not changed exactly if none of its types differs from itself. -/
theorem functionUnchanged_self_iff (comparison : TypeComparison) (side : Side)
    (bound : Bound FunctionDeclaration) :
    FunctionUnchanged comparison side side bound bound ↔
      ∀ type ∈ Side.functionTypes bound.1, comparison.Unchanged (type, type) := by
  have pairs : functionPairs bound.1 bound.1 =
      (Side.functionTypes bound.1).map fun type => (type, type) := by
    have zipped : bound.1.parameters.zip bound.1.parameters =
        bound.1.parameters.map fun parameter => (parameter, parameter) := by
      simpa only [List.map_id, id] using
        List.zip_map' (l := bound.1.parameters) (f := id) (g := id)
    rw [functionPairs, Side.functionTypes, zipped, List.map_cons, List.map_map, List.map_map]
    rfl
  constructor
  · intro unchanged type member
    exact unchanged.types _ (pairs ▸ List.mem_map_of_mem member)
  · intro unchanged
    refine ⟨?_, rfl, Symbol.changes_self _ _⟩
    rw [pairs, List.forall_mem_map]
    exact unchanged

/-- All that can be listed of a corpus against itself are changed functions and variables. -/
theorem hasChanges_self_eq_false_iff (corpus : Corpus) (suppressions : List Suppression)
    (options : Options) :
    (ofCorpora corpus corpus suppressions options).hasChanges = false ↔
      (ofCorpora corpus corpus suppressions options).changedFunctions = [] ∧
        (ofCorpora corpus corpus suppressions options).changedVariables = [] := by
  have binary : (ofCorpora corpus corpus suppressions options).hasBinaryChanges = false := by
    simp only [hasBinaryChanges, ofCorpora, ifDiffer_self, missing_self, List.isEmpty_nil]
    cases corpus.architecture with
    | none => rfl
    | some architecture =>
      simp only [ifDiffer_self]
      rfl
  have symbols (change : Suppression.Changes) (asked : SymbolChange → Bool) :
      (if options.showUnreferenced then
        unreferenced (contextOf corpus suppressions) change (Side.ofCorpus corpus)
          (Side.ofCorpus corpus) else []).filter asked = [] := by
    rw [unreferenced_self, ite_self, List.filter_nil]
  rw [hasChanges_eq_false_iff]
  constructor
  · rintro ⟨_, ⟨_, _, functions⟩, ⟨_, _, globals⟩, _⟩
    exact ⟨functions, globals⟩
  · rintro ⟨functions, globals⟩
    exact ⟨binary, ⟨onlyIn_self _ _, onlyIn_self _ _, functions⟩,
      ⟨onlyIn_self _ _, onlyIn_self _ _, globals⟩, ⟨symbols _ _, symbols _ _⟩, symbols _ _,
      symbols _ _⟩

/-- A corpus has no changes against itself, and nothing to report, exactly if namesakes agree in all
types that the declarations which take part lead to.

Proof: all that can be listed are changed functions and variables. Each of them is held against itself,
and has not changed exactly if its types do not differ from themselves. -/
theorem hasChanges_self_iff (corpus : Corpus) (suppressions : List Suppression) (options : Options) :
    ((ofCorpora corpus corpus suppressions options).hasChanges = false ∧
        (ofCorpora corpus corpus suppressions options).status = {}) ↔
      ∀ type, (Side.ofCorpus corpus).Uses type →
        ∀ inner, Relation.ReflTransGen corpus.types.Leads type inner →
          (comparisonOf corpus corpus suppressions).Consistent inner := by
  have consistent_iff (type : Nat) :=
    (comparisonOf corpus corpus suppressions).unchanged_self_iff type
  obtain ⟨functions, globals⟩ := changed_eq_nil_iff corpus corpus suppressions options
  rw [and_iff_left_of_imp status_of_hasChanges_eq_false, hasChanges_self_eq_false_iff, functions,
    globals]
  constructor
  · rintro ⟨functions, globals⟩ type (⟨key, bound, held, used⟩ | ⟨key, bound, held, rfl⟩)
    · have unchanged := functions (key, bound, bound) ((mem_inBoth_self _ _).mpr ⟨bound, held, rfl⟩)
      exact (consistent_iff type).mp ((functionUnchanged_self_iff _ _ bound).mp unchanged type used)
    · have unchanged := globals (key, bound, bound) ((mem_inBoth_self _ _).mpr ⟨bound, held, rfl⟩)
      exact (consistent_iff bound.1.type).mp unchanged.type
  · intro consistent
    constructor
    · intro item member
      obtain ⟨bound, held, same⟩ := (mem_inBoth_self _ _).mp member
      rw [same]
      refine (functionUnchanged_self_iff _ _ bound).mpr fun type used => ?_
      exact (consistent_iff type).mpr (consistent type (Or.inl ⟨item.1, bound, held, used⟩))
    · intro item member
      obtain ⟨bound, held, same⟩ := (mem_inBoth_self _ _).mp member
      rw [same]
      exact ⟨(consistent_iff _).mpr (consistent _ (Or.inr ⟨item.1, bound, held, rfl⟩)),
        Symbol.changes_self _ _⟩

/-- A variable of a struct with two members without a name, one behind the other. -/
def unnamedMembers : Corpus where
  path := "a"
  types := {
    nodes := #[.void, .builtin "int" 32, .record {
      kind := .structRecord
      name := "pair"
      size := 64
      members := [⟨"", 1, 0⟩, ⟨"", 1, 32⟩] }] }
  globals := [{ name := "origin", type := 2 }]

/-- The second member is held against the first one and found to have moved. -/
theorem unnamedMembers_changed :
    (∀ type < unnamedMembers.types.size, ∀ inner ∈ unnamedMembers.types.references type,
        inner < unnamedMembers.types.size) ∧
      (ofCorpora unnamedMembers unnamedMembers [] {}).hasChanges = true ∧
      (ofCorpora unnamedMembers unnamedMembers [] {}).status =
        { isChanged := true } := by
  exact ⟨by decide, by decide +kernel, by decide +kernel⟩

end Difference

end Abiscope
