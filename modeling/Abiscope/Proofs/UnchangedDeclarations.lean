import Abiscope.Proofs.Histories

/-!
# Declarations without changes

Functions and variables that are there on both sides are listed if they changed, suppressed or not. What
was compared before does not matter for this. So the lists can be said to be empty in terms of the
declarations alone: nothing that the comparison of their types leads to has changes of its own, their
parameters are as many, and their symbols do not differ.

The runs are related to such a condition one by one, from the comparison of two types up to the lists:
each finds nothing exactly if its condition holds, and leaves what was left to it by comparisons to the
next one as it should be.
-/

namespace Abiscope

namespace TypeComparison

variable {comparison : TypeComparison} {α β : Type}

/-- Nothing that the comparison of a pair leads to has changes of its own. -/
def Unchanged (comparison : TypeComparison) (pair : Nat × Nat) : Prop :=
  ∀ other, Relation.ReflTransGen comparison.Steps pair other → comparison.changesAt other = []

/-- After any comparisons a computation finds nothing exactly if a condition holds, and what is remembered
then is what comparisons leave. -/
def Decides (comparison : TypeComparison) (condition : Prop) (isNothing : α → Bool)
    (run : Remembering α) : Prop :=
  ∀ memory, comparison.IsHistory memory →
    (isNothing (run memory).1 = true ↔ condition) ∧ comparison.IsHistory (run memory).2

/-- Comparing two types finds nothing exactly if nothing has changed. -/
theorem decides_compare (comparison : TypeComparison) (old new : Nat) (reach : Reach) :
    comparison.Decides (comparison.Unchanged (old, new)) Option.isNone
      (comparison.compare old new reach) := by
  intro memory history
  refine ⟨?_, history.compare old new reach⟩
  obtain ⟨calls, rfl⟩ := history
  have exposed := (comparison.difference.settles_memoryAfter calls).compare_any old new reach
  rw [show comparison.difference.passes = fun _ => True from rfl, exposes_true_iff] at exposed
  have found (result : Option TypeDifference) :
      result.any comparison.difference.holds = !result.isNone := by
    cases result <;> rfl
  rw [found, Bool.not_eq_true'] at exposed
  rw [← Bool.not_eq_false, exposed, Unchanged]
  simp only [not_exists, not_and, not_not]

/-- Going through items finds nothing exactly if nothing is found for any of them. -/
theorem Decides.eachOf {condition : α → Prop} {make : α → Remembering (Option β)} (items : List α)
    (decides : ∀ item ∈ items,
      comparison.Decides (condition item) Option.isNone (make item)) :
    comparison.Decides (∀ item ∈ items, condition item) List.isEmpty
      (TypeComparison.eachOf make items) := by
  induction items with
  | nil =>
    intro memory history
    exact ⟨⟨fun _ => List.forall_mem_nil _, fun _ => rfl⟩, history⟩
  | cons item rest inductionHypothesis =>
    intro memory history
    obtain ⟨first, between⟩ := decides item List.mem_cons_self memory history
    obtain ⟨others, after⟩ := inductionHypothesis
      (fun later member => decides later (List.mem_cons_of_mem _ member)) _ between
    refine ⟨?_, after⟩
    change ((make item memory).1.toList ++
      (TypeComparison.eachOf make rest (make item memory).2).1).isEmpty = true ↔ _
    rw [List.isEmpty_iff, List.append_eq_nil_iff, List.forall_mem_cons, ← first, ← others,
      Option.toList_eq_nil_iff, Option.isNone_iff_eq_none, List.isEmpty_iff]

end TypeComparison

/-- A function has no changes exactly if nothing is found about its result, its parameters and its
symbol. -/
theorem FunctionDifference.hasChanges_eq_false_iff (difference : FunctionDifference) :
    difference.hasChanges = false ↔ difference.result.isNone = true ∧
      difference.parameters.isEmpty = true ∧ difference.symbolChanges = [] := by
  rw [hasChanges, Bool.or_eq_false_iff, Bool.or_eq_false_iff, Option.isSome_eq_false_iff,
    Bool.not_eq_false', Bool.not_eq_false', and_assoc, ← List.isEmpty_iff (l := difference.symbolChanges)]

/-- A variable has no changes exactly if nothing is found about its type and its symbol. -/
theorem VariableDifference.hasChanges_eq_false_iff (difference : VariableDifference) :
    difference.hasChanges = false ↔
      difference.type.isNone = true ∧ difference.symbolChanges = [] := by
  rw [hasChanges, Bool.or_eq_false_iff, Option.isSome_eq_false_iff, Bool.not_eq_false',
    List.isEmpty_iff]

namespace Difference

open Suppression (Context)
open TypeComparison (Remembering eachOf)

variable {comparison : TypeComparison}

/-! ## One declaration -/

/-- No parameters are left behind the first ones exactly if there are no more of them. -/
theorem furtherParameters_eq_nil_iff (graph : TypeGraph) (change : String → ParameterChange)
    (count : Nat) (parameters : List Parameter) :
    furtherParameters graph change count parameters = [] ↔ parameters.length ≤ count := by
  rw [furtherParameters, List.map_eq_nil_iff, List.drop_eq_nil_iff, List.length_zipIdx]

/-- A parameter on both sides is not listed exactly if its type has not changed. -/
theorem decides_retypedParameter (item : (Parameter × Parameter) × Nat) :
    comparison.Decides (comparison.Unchanged (item.1.1.type, item.1.2.type))
      Option.isNone (retypedParameter comparison item) := by
  intro memory history
  obtain ⟨found, after⟩ :=
    comparison.decides_compare item.1.1.type item.1.2.type .direct memory history
  refine ⟨?_, after⟩
  rw [← found]
  change (Option.map _ (comparison.compare _ _ _ memory).1).isNone = true ↔ _
  rw [Option.isNone_map]

/-- Parameters are found not to have changed exactly if they are as many and their types have not
changed. -/
theorem decides_parameterDifferences (old new : List Parameter) :
    comparison.Decides
      ((∀ pair ∈ old.zip new, comparison.Unchanged (pair.1.type, pair.2.type)) ∧
        old.length = new.length)
      List.isEmpty (parameterDifferences comparison old new) := by
  intro memory history
  obtain ⟨retyped, after⟩ := TypeComparison.Decides.eachOf (old.zip new).zipIdx
    (fun item _ => decides_retypedParameter item) memory history
  rw [← retypedParameters_eq_eachOf] at retyped after
  refine ⟨?_, after⟩
  change ((retypedParameters comparison (old.zip new).zipIdx memory).1 ++ _ ++ _).isEmpty = true ↔ _
  rw [List.isEmpty_iff, List.append_eq_nil_iff, List.append_eq_nil_iff, furtherParameters_eq_nil_iff,
    furtherParameters_eq_nil_iff, ← List.isEmpty_iff, retyped, and_assoc, ← Nat.le_antisymm_iff]
  have pairs : (∀ item ∈ (old.zip new).zipIdx,
      comparison.Unchanged (item.1.1.type, item.1.2.type)) ↔
      ∀ pair ∈ old.zip new, comparison.Unchanged (pair.1.type, pair.2.type) := by
    constructor
    · intro unchanged pair member
      obtain ⟨index, inside, rfl⟩ := List.getElem_of_mem member
      exact unchanged ((old.zip new)[index], index)
        (List.mem_zipIdx_iff_getElem?.mpr (List.getElem?_eq_getElem inside))
    · exact fun unchanged item member => unchanged item.1 (List.fst_mem_of_mem_zipIdx member)
  rw [pairs]

/-- A function has not changed: nothing that the comparison of its types leads to has changes, it has as
many parameters, and its symbol is the same in all that matters. -/
structure FunctionUnchanged (comparison : TypeComparison) (first second : Side)
    (old new : Bound FunctionDeclaration) : Prop where
  types : ∀ pair ∈ functionPairs old.1 new.1, comparison.Unchanged pair
  count : old.1.parameters.length = new.1.parameters.length
  symbol : Symbol.changes false (first.symbolOf? old.2) (second.symbolOf? new.2) = []

/-- A variable has not changed: nothing that the comparison of its type leads to has changes, and its
symbol is the same in all that matters. -/
structure VariableUnchanged (comparison : TypeComparison) (first second : Side)
    (old new : Bound VariableDeclaration) : Prop where
  type : comparison.Unchanged (old.1.type, new.1.type)
  symbol : Symbol.changes true (first.symbolOf? old.2) (second.symbolOf? new.2) = []

/-- What is listed if it has changed is not listed exactly if it has not. -/
theorem isNone_ite {δ : Type} (changed : Bool) (entry : δ) :
    (if changed = true then some entry else none).isNone = true ↔ changed = false := by
  cases changed <;> simp

/-- A function on both sides is not listed exactly if it has not changed. -/
theorem decides_changedFunction (context : Context) (first second : Side)
    (item : String × Bound FunctionDeclaration × Bound FunctionDeclaration) :
    comparison.Decides (FunctionUnchanged comparison first second item.2.1 item.2.2)
      Option.isNone
      (changedFunction context comparison first second item) := by
  intro memory history
  obtain ⟨key, old, new⟩ := item
  obtain ⟨result, between⟩ :=
    comparison.decides_compare old.1.result new.1.result .direct memory history
  obtain ⟨parameters, after⟩ :=
    decides_parameterDifferences old.1.parameters new.1.parameters _ between
  refine ⟨?_, after⟩
  change (if (unlabelledFunction comparison first second key old new memory).1.hasChanges = true
    then some _ else none : Option FunctionDifference).isNone = true ↔ _
  rw [isNone_ite, FunctionDifference.hasChanges_eq_false_iff]
  refine (Iff.and result (Iff.and parameters Iff.rfl)).trans ?_
  constructor
  · rintro ⟨ofResult, ⟨ofParameters, count⟩, symbol⟩
    refine ⟨List.forall_mem_cons.mpr ⟨ofResult, ?_⟩, count, symbol⟩
    rw [List.forall_mem_map]
    exact ofParameters
  · rintro ⟨types, count, symbol⟩
    rw [functionPairs, List.forall_mem_cons, List.forall_mem_map] at types
    exact ⟨types.1, ⟨types.2, count⟩, symbol⟩

/-- A variable on both sides is not listed exactly if it has not changed. -/
theorem decides_changedVariable (context : Context) (first second : Side)
    (item : String × Bound VariableDeclaration × Bound VariableDeclaration) :
    comparison.Decides (VariableUnchanged comparison first second item.2.1 item.2.2)
      Option.isNone
      (changedVariable context comparison first second item) := by
  intro memory history
  obtain ⟨key, old, new⟩ := item
  obtain ⟨type, after⟩ := comparison.decides_compare old.1.type new.1.type .direct memory history
  refine ⟨?_, after⟩
  change (if (variableDifference first second key old new
      (comparison.compare old.1.type new.1.type .direct memory).1).hasChanges = true
    then some _ else none : Option VariableDifference).isNone = true ↔ _
  rw [isNone_ite, VariableDifference.hasChanges_eq_false_iff]
  refine (Iff.and type Iff.rfl).trans ?_
  exact ⟨fun both => ⟨both.1, both.2⟩, fun unchanged => ⟨unchanged.type, unchanged.symbol⟩⟩

/-! ## All declarations -/

variable (first second : Corpus) (suppressions : List Suppression) (options : Options)

/-- No functions are listed as changed, and no variables, exactly if none that is there on both sides has
changed. -/
theorem changed_eq_nil_iff :
    ((ofCorpora first second suppressions options).changedFunctions = [] ↔
      ∀ item ∈ inBoth (Side.ofCorpus first).functions (Side.ofCorpus second).functions,
        FunctionUnchanged (comparisonOf first second suppressions) (Side.ofCorpus first)
          (Side.ofCorpus second) item.2.1 item.2.2) ∧
      ((ofCorpora first second suppressions options).changedVariables = [] ↔
        ∀ item ∈ inBoth (Side.ofCorpus first).globals (Side.ofCorpus second).globals,
          VariableUnchanged (comparisonOf first second suppressions) (Side.ofCorpus first)
            (Side.ofCorpus second) item.2.1 item.2.2) := by
  let comparison := comparisonOf first second suppressions
  let context := contextOf first suppressions
  have functions := TypeComparison.Decides.eachOf
    (inBoth (Side.ofCorpus first).functions (Side.ofCorpus second).functions)
    (fun item _ => @decides_changedFunction comparison context (Side.ofCorpus first)
      (Side.ofCorpus second) item)
    ∅ (TypeComparison.isHistory_empty _)
  have globals := TypeComparison.Decides.eachOf
    (inBoth (Side.ofCorpus first).globals (Side.ofCorpus second).globals)
    (fun item _ => @decides_changedVariable comparison context (Side.ofCorpus first)
      (Side.ofCorpus second) item) _ functions.2
  rw [changedFunctions_ofCorpora, changedVariables_ofCorpora, ← List.isEmpty_iff, ← List.isEmpty_iff]
  exact ⟨functions.1, globals.1⟩

end Difference

end Abiscope
