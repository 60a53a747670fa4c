import Abiscope.Corpus.Reading
import Abiscope.Proofs.ExactSizes
import Abiscope.Proofs.FirstRules
import Abiscope.Proofs.Histories
import Abiscope.Proofs.Readings

/-!
# Comparisons that fail

Wherever two types are found to differ, the size of the first one is asked for, whatever suppressions there
are. A comparison of two corpora fails of nothing else: what it fails of is what sizing some type of the
first corpus fails of. So a comparison succeeds if all types are sized, as they are where a corpus declares
nothing, and it overflows only if the exact size of some type is too large for a word.
-/

namespace Abiscope

namespace TypeGraph

/-- A failure, if there is one, is that of sizing some type. -/
def FailsSizing (graph : TypeGraph) (failure? : Option SizeFailure) : Prop :=
  ∀ failure, failure? = some failure → ∃ id, graph.sizeFailure? id = some failure

variable {graph : TypeGraph}

theorem failsSizing_none : graph.FailsSizing none := fun _ impossible => by contradiction

/-- The first of two failures is one of them. -/
theorem FailsSizing.or {first? second? : Option SizeFailure} (first : graph.FailsSizing first?)
    (second : graph.FailsSizing second?) : graph.FailsSizing (first?.or second?) := by
  intro failure fails
  rcases Option.or_eq_some_iff.mp fails with ofFirst | ⟨_, ofSecond⟩
  · exact first failure ofFirst
  · exact second failure ofSecond

/-- The first failure of some items is that of one of them. -/
theorem FailsSizing.findSome? {α : Type} {failureOf? : α → Option SizeFailure} {items : List α}
    (each : ∀ item ∈ items, graph.FailsSizing (failureOf? item)) :
    graph.FailsSizing (items.findSome? failureOf?) := by
  intro failure fails
  obtain ⟨item, member, ofItem⟩ := List.exists_of_findSome?_eq_some fails
  exact each item member failure ofItem

/-- Sizing a type without values does not fail. -/
theorem sizeFailure?_of_void {id : Nat} (isVoid : graph.node id = .void) :
    graph.sizeFailure? id = none := by
  have settles := settled?_of_base?_eq_none (congrArg TypeNode.base? isVoid) graph.size
  have sized := sizing_of_repeated?_eq_none settles (congrArg TypeNode.repeated? isVoid)
  rw [sizeFailure?, sizeOf?, sized]
  rfl

end TypeGraph

namespace TypeComparison

variable {comparison : TypeComparison} {part : TypePart}

/-- Findings that stand below a part fail of sizing their types. -/
theorem Below.failsSizing {findings : Findings} (below : comparison.Below part findings) :
    comparison.first.FailsSizing findings.failure? := by
  induction below with
  | empty => exact TypeGraph.failsSizing_none
  | cons _ _ judged _ _ ofInside ofBeside =>
    refine .or (.or ofInside ?_) ofBeside
    exact fun failure fails => ⟨_, (failure?_of_judge judged).symm.trans fails⟩

/-- What holds of the first of two values that are there together relates them. -/
theorem rel_of_rel_true {α β : Type} {holds : α → Prop} {left : Option α} {right : Option β}
    (together : Option.Rel (fun _ _ => True) left right) (first : ∀ one, left = some one → holds one) :
    Option.Rel (fun one _ => holds one) left right := by
  cases together with
  | none => exact .none
  | some _ => exact .some (first _ rfl)

/-- Whatever was compared before, what a comparison returns fails of sizing a type. -/
theorem relates_compare_failsSizing (comparison : TypeComparison) (old new : Nat) (reach : Reach) :
    Relates comparison.Histories
      (Option.Rel fun one _ => comparison.first.FailsSizing one.failure?)
      (comparison.compare old new reach) (comparison.compare old new reach) := by
  intro one other histories
  obtain ⟨found, between⟩ := comparison.relates_compare old new reach one other histories
  refine ⟨rel_of_rel_true found fun difference returned => ?_, between⟩
  obtain ⟨calls, rfl⟩ := histories.1
  have foundFor := foundFor_compare returned
  refine .or foundFor.inside.failsSizing fun failure fails => ?_
  exact ⟨_, (failure?_of_judge foundFor.judged).symm.trans fails⟩

end TypeComparison

namespace Difference

open Suppression (Context)
open TypeComparison (Relates)
open TypeGraph (SizeFailure)

variable {graph : TypeGraph} {few many : Context}

/-- Labels do not change what a function fails of. -/
theorem failure?_labelFunction (context : Context) (facts : Suppression.FunctionFacts)
    (rules : List Suppression.FunctionRule) (difference : FunctionDifference) :
    (labelFunction context facts rules difference).failure? = difference.failure? := by
  rw [labelFunction_eq, FunctionDifference.failure?, FunctionDifference.failure?, List.findSome?_map]
  rfl

/-- What may be found fails of sizing a type if what is found does. -/
theorem failsSizing_of_rel {left right : Option TypeDifference}
    (related : Option.Rel (fun one _ => graph.FailsSizing one.failure?) left right) :
    graph.FailsSizing (left.bind TypeDifference.failure?) := by
  cases related with
  | none => exact TypeGraph.failsSizing_none
  | some fails => exact fails

/-- A parameter fails of sizing a type if the difference of its types does. -/
theorem failsSizing_of_alike {left right : ParameterDifference}
    (alike : left.Alike (fun one _ => graph.FailsSizing one.failure?) right) :
    graph.FailsSizing left.failure? := by
  obtain ⟨index, name, change, label⟩ := left
  obtain ⟨_, _, other, _⟩ := right
  cases alike.change with
  | retyped fails => exact fails
  | added _ | removed _ => exact TypeGraph.failsSizing_none

/-- An entry about a function fails of what comparing its types fails of. -/
theorem FunctionsRelated.failsSizing {left right : FunctionDifference}
    (related : FunctionsRelated (fun one _ => graph.FailsSizing one.failure?) few many left right) :
    graph.FailsSizing left.failure? := by
  obtain ⟨facts, bareLeft, bareRight, alike, _, rfl, rfl⟩ := related
  rw [failure?_labelFunction]
  refine .or (failsSizing_of_rel alike.result) (.findSome? fun parameter member => ?_)
  obtain ⟨other, _, same⟩ := exists_of_forall₂ alike.parameters member
  exact failsSizing_of_alike same

/-- An entry about a variable fails of what comparing its type fails of. -/
theorem VariablesRelated.failsSizing {left right : VariableDifference}
    (related : VariablesRelated (fun one _ => graph.FailsSizing one.failure?) few many left right) :
    graph.FailsSizing left.failure? := by
  obtain ⟨facts, bareLeft, bareRight, alike, _, rfl, rfl⟩ := related
  exact failsSizing_of_rel alike.type

variable {first second : Corpus} {suppressions : List Suppression} {options : Options}

/-- What a comparison of two corpora fails of is what sizing some type of the first one fails of. -/
theorem failsSizing_ofCorpora (first second : Corpus) (suppressions : List Suppression)
    (options : Options) :
    first.types.FailsSizing (ofCorpora first second suppressions options).failure? := by
  let context := contextOf first suppressions
  let comparison := comparisonOf first second suppressions
  have start := comparison.isHistory_empty
  refine .or (.findSome? fun entry member => ?functions) (.findSome? fun entry member => ?globals)
  case functions =>
    rw [changedFunctions_ofCorpora] at member
    obtain ⟨_, _, fails⟩ := exists_of_forall₂ ((Relates.eachOf fun item _ => relates_changedFunction
      context context comparison comparison (Side.ofCorpus first) (Side.ofCorpus second) rfl rfl item
        fun pair _ => comparison.relates_compare_failsSizing pair.1 pair.2 .direct)
          ∅ ∅ ⟨start, start⟩).1 member
    exact fails.failsSizing
  case globals =>
    rw [changedVariables_ofCorpora] at member
    have history := isHistory_functions context comparison (Side.ofCorpus first) (Side.ofCorpus second)
      (inBoth (Side.ofCorpus first).functions (Side.ofCorpus second).functions) start
    obtain ⟨_, _, fails⟩ := exists_of_forall₂ ((Relates.eachOf fun item _ => relates_changedVariable
      context context comparison comparison (Side.ofCorpus first) (Side.ofCorpus second) item
        (comparison.relates_compare_failsSizing _ _ .direct)) _ _ ⟨history, history⟩).1 member
    exact fails.failsSizing

/-- A comparison of two corpora fails only of what sizing some type of the first one fails of. -/
theorem exists_sizeFailure?_of_compute {failure : SizeFailure}
    (fails : compute first second suppressions options = .error failure) :
    ∃ id, first.types.sizeFailure? id = some failure := by
  refine failsSizing_ofCorpora first second suppressions options failure ?_
  rw [compute] at fails
  cases found : (ofCorpora first second suppressions options).failure? with
  | none =>
    simp only [found] at fails
    contradiction
  | some other =>
    simp only [found] at fails
    exact congrArg some (Except.error.inj fails)

/-- Where all types are sized, the comparison of two corpora succeeds. -/
theorem compute_of_sized (sized : ∀ id, first.types.sizeFailure? id = none) :
    compute first second suppressions options = .ok (ofCorpora first second suppressions options) := by
  cases computed : compute first second suppressions options with
  | error failure =>
    obtain ⟨id, fails⟩ := exists_sizeFailure?_of_compute computed
    rw [sized id] at fails
    contradiction
  | ok difference =>
    rw [compute] at computed
    split at computed
    · exact computed.symm
    · contradiction

/-- The comparison of a corpus that is read from an image succeeds. It declares nothing, so there are no types
to size. -/
theorem compute_of_ofImage {path : String} {image : ByteArray} {rules : List Suppression}
    (read : Corpus.ofImage path image rules = .ok first) :
    compute first second suppressions options = .ok (ofCorpora first second suppressions options) := by
  obtain ⟨identity, _, further⟩ := bind_eq_ok.mp read
  obtain ⟨table, _, made⟩ := bind_eq_ok.mp further
  obtain rfl := Except.ok.inj made
  exact compute_of_sized fun id =>
    TypeGraph.sizeFailure?_of_void (TypeGraph.node_of_size_le (Nat.zero_le id))

/-- The comparison of two corpora overflows only if the exact size of some type is too large for a word. -/
theorem exists_tooLarge_of_compute {overflow : TypeGraph.Overflow}
    (fails : compute first second suppressions options = .error (.overflow overflow)) :
    ∃ id total, first.types.HasSize id total ∧ UInt64.size ≤ total := by
  obtain ⟨id, ofType⟩ := exists_sizeFailure?_of_compute fails
  have sized := TypeGraph.sizeFailure?_eq_overflow_iff.mp ofType
  obtain ⟨array, element, _, repeats, each⟩ := (TypeGraph.accounts_of_sizing sized).failed overflow rfl
  exact ⟨array, _, .repeated repeats each, overflow.isTooLarge⟩

end Difference

end Abiscope
