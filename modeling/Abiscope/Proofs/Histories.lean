import Abiscope.Proofs.RelatedDeclarations
import Abiscope.Proofs.SideKeys
import Abiscope.Proofs.StraightComparisons

/-!
# What declarations have from their history

All declarations of two corpora are compared with one memory, in the order of their keys. What a
declaration meets in the memory was left by the comparisons of those before it. Whether it is found to
have changed does not depend on these, since types differ or do not differ whatever is remembered. If
the comparison of its types is steady, neither does the verdict.
-/

namespace Abiscope

namespace TypeComparison

variable {comparison : TypeComparison}

/-- What is remembered after some comparisons. -/
def IsHistory (comparison : TypeComparison) (memory : Memory) : Prop :=
  ∃ calls, memory = comparison.memoryAfter calls

/-- Two memories that are left by comparisons, not necessarily the same ones. -/
def Histories (comparison : TypeComparison) (one other : Memory) : Prop :=
  comparison.IsHistory one ∧ comparison.IsHistory other

theorem isHistory_empty (comparison : TypeComparison) : comparison.IsHistory ∅ := ⟨[], rfl⟩

/-- Comparing two types after others is one more comparison. -/
theorem IsHistory.compare {memory : Memory} (history : comparison.IsHistory memory) (old new : Nat)
    (reach : Reach) : comparison.IsHistory (comparison.compare old new reach memory).2 := by
  obtain ⟨calls, rfl⟩ := history
  refine ⟨calls ++ [(old, new, reach)], ?_⟩
  rw [memoryAfter, memoryAfter, List.foldl_append]
  rfl

/-- Types differ after all comparisons or after none. -/
theorem relates_compare (comparison : TypeComparison) (old new : Nat) (reach : Reach) :
    Relates comparison.Histories (Option.Rel fun _ _ => True) (comparison.compare old new reach)
      (comparison.compare old new reach) := by
  rintro one other ⟨oneHistory, otherHistory⟩
  refine ⟨?_, oneHistory.compare old new reach, otherHistory.compare old new reach⟩
  obtain ⟨oneCalls, rfl⟩ := oneHistory
  obtain ⟨otherCalls, rfl⟩ := otherHistory
  have oneDiffers := (comparison.difference.settles_memoryAfter oneCalls).compare_any old new reach
  have otherDiffers :=
    (comparison.difference.settles_memoryAfter otherCalls).compare_any old new reach
  have same := oneDiffers.trans otherDiffers.symm
  cases ofOne : (comparison.compare old new reach (comparison.memoryAfter oneCalls)).1 <;>
    cases ofOther : (comparison.compare old new reach (comparison.memoryAfter otherCalls)).1 <;>
    rw [ofOne, ofOther] at same
  · exact .none
  · exact absurd (same.mpr rfl) Bool.false_ne_true
  · exact absurd (same.mp rfl) Bool.false_ne_true
  · exact .some trivial

/-- A difference that has something left to report if another one has. -/
def CarriesOver (one other : TypeDifference) : Prop :=
  other.isReportable = true → one.isReportable = true

/-- What is steady is left to report after all comparisons or after none. -/
theorem Steady.relates_compare {pair : Nat × Nat} (steady : comparison.Steady pair) :
    Relates comparison.Histories (Option.Rel CarriesOver)
      (comparison.compare pair.1 pair.2 .direct) (comparison.compare pair.1 pair.2 .direct) := by
  intro one other histories
  obtain ⟨found, between⟩ :=
    TypeComparison.relates_compare comparison pair.1 pair.2 .direct one other histories
  refine ⟨?_, between⟩
  obtain ⟨⟨oneCalls, rfl⟩, ⟨otherCalls, rfl⟩⟩ := histories
  obtain ⟨verdict, always⟩ := steady
  have same := (always oneCalls).trans (always otherCalls).symm
  cases ofOne : (comparison.compare pair.1 pair.2 .direct (comparison.memoryAfter oneCalls)).1 <;>
    cases ofOther : (comparison.compare pair.1 pair.2 .direct (comparison.memoryAfter otherCalls)).1 <;>
    rw [ofOne, ofOther] at same found
  · exact .none
  · cases found
  · cases found
  · refine .some fun reportable => ?_
    rw [Option.any_some, Option.any_some] at same
    rw [same]
    exact reportable

end TypeComparison

namespace Difference

open Suppression (Changes Context)
open TypeComparison (Histories IsHistory Remembering Relates eachOf)

variable {δ ε : Type}

/-- What is in both of two maps under a key is listed once, among entries of other keys. -/
theorem exists_split_inBoth {first second : Std.TreeMap String δ} {key : String} {old new : δ}
    (ofFirst : first.get? key = some old) (ofSecond : second.get? key = some new) :
    ∃ before after, inBoth first second = before ++ (key, old, new) :: after ∧
      (∀ item ∈ before, item.1 ≠ key) ∧ ∀ item ∈ after, item.1 ≠ key := by
  have member : (key, old, new) ∈ inBoth first second := by
    rw [inBoth, List.mem_filterMap]
    refine ⟨(key, old), ?_, by simp only [ofSecond, Option.map_some]⟩
    rw [Std.TreeMap.mem_toList_iff_getElem?_eq_some, ← Std.TreeMap.get?_eq_getElem?]
    exact ofFirst
  have distinct : (inBoth first second).Pairwise fun left right => left.1 ≠ right.1 := by
    refine List.Pairwise.filterMap _ ?_ first.distinct_keys_toList
    intro left right differ one ofLeft other ofRight
    obtain ⟨_, _, rfl⟩ := Option.map_eq_some_iff.mp ofLeft
    obtain ⟨_, _, rfl⟩ := Option.map_eq_some_iff.mp ofRight
    exact fun same => differ (by rw [show left.1 = right.1 from same]; exact Std.ReflCmp.compare_self)
  obtain ⟨before, after, split⟩ := List.append_of_mem member
  rw [split, List.pairwise_append, List.pairwise_cons] at distinct
  refine ⟨before, after, split, ?_, ?_⟩
  · exact fun item earlier => distinct.2.2 item earlier _ List.mem_cons_self
  · exact fun item later => (distinct.2.1.1 item later).symm

/-- What is found under a key is what is made of the one item of that key. -/
theorem find?_eachOf (make : String × δ → Remembering (Option ε)) (keyOf : ε → String)
    (keyed : ∀ item memory found, (make item memory).1 = some found → keyOf found = item.1)
    {before after : List (String × δ)} {key : String}
    (others : ∀ other ∈ before, other.1 ≠ key) (laterOthers : ∀ other ∈ after, other.1 ≠ key)
    (value : δ) (memory : TypeComparison.Memory) :
    (eachOf make (before ++ (key, value) :: after) memory).1.find? (fun found => keyOf found == key) =
      (make (key, value) (eachOf make before memory).2).1 := by
  have none (items : List (String × δ)) (start : TypeComparison.Memory)
      (differ : ∀ other ∈ items, other.1 ≠ key) :
      (eachOf make items start).1.find? (fun found => keyOf found == key) = none := by
    rw [List.find?_eq_none]
    intro found member named
    obtain ⟨other, otherMember, between, made⟩ := TypeComparison.exists_of_mem_eachOf member
    rw [keyed other between found made, beq_iff_eq] at named
    exact differ other otherMember named
  rw [TypeComparison.eachOf_append, List.find?_append, none before memory others, Option.none_or]
  change List.find? _ ((make (key, value) _).1.toList ++
    (eachOf make after (make (key, value) _).2).1) = _
  rw [List.find?_append, none after _ laterOthers, Option.or_none]
  cases made : (make (key, value) (eachOf make before memory).2).1 with
  | none => rfl
  | some found =>
    rw [Option.toList_some, List.find?_singleton, keyed _ _ found made, beq_self_eq_true, if_pos rfl]

/-- Comparing some functions leaves a history. -/
theorem isHistory_functions (context : Context) (comparison : TypeComparison) (first second : Side)
    (items : List (String × Bound FunctionDeclaration × Bound FunctionDeclaration))
    {memory : TypeComparison.Memory} (history : comparison.IsHistory memory) :
    comparison.IsHistory (eachOf (changedFunction context comparison first second) items memory).2 :=
  ((Relates.eachOf fun item _ => relates_changedFunction context context comparison comparison first
    second rfl rfl item fun pair _ => comparison.relates_compare pair.1 pair.2 .direct)
      memory memory ⟨history, history⟩).2.1

/-- Comparing some variables leaves a history. -/
theorem isHistory_variables (context : Context) (comparison : TypeComparison) (first second : Side)
    (items : List (String × Bound VariableDeclaration × Bound VariableDeclaration))
    {memory : TypeComparison.Memory} (history : comparison.IsHistory memory) :
    comparison.IsHistory (eachOf (changedVariable context comparison first second) items memory).2 :=
  ((Relates.eachOf fun item _ => relates_changedVariable context context comparison comparison first
    second item (comparison.relates_compare _ _ .direct)) memory memory ⟨history, history⟩).2.1

variable {first second : Corpus} {suppressions : List Suppression} {options : Options} {key : String}

/-- The entry about a function on both sides is what comparing it after some other comparisons gives. -/
theorem find?_changedFunctions (suppressions : List Suppression) (options : Options)
    {old new : Bound FunctionDeclaration}
    (ofFirst : (Side.ofCorpus first).functions.get? key = some old)
    (ofSecond : (Side.ofCorpus second).functions.get? key = some new) :
    ∃ memory, (comparisonOf first second suppressions).IsHistory memory ∧
      (ofCorpora first second suppressions options).changedFunctions.find? (·.key == key) =
        (functionEntry first second suppressions (key, old, new) memory).1 := by
  obtain ⟨before, after, split, others, laterOthers⟩ := exists_split_inBoth ofFirst ofSecond
  have entry := find?_eachOf (functionEntry first second suppressions) FunctionDifference.key
    (fun _ _ _ => key_changedFunction) others laterOthers (old, new) ∅
  rw [← split, ← changedFunctions_ofCorpora first second suppressions options] at entry
  exact ⟨_, isHistory_functions _ _ _ _ before (TypeComparison.isHistory_empty _), entry⟩

/-- The entry about a variable on both sides is what comparing it after some other comparisons gives,
among them those of all functions. -/
theorem find?_changedVariables (suppressions : List Suppression) (options : Options)
    {old new : Bound VariableDeclaration} (ofFirst : (Side.ofCorpus first).globals.get? key = some old)
    (ofSecond : (Side.ofCorpus second).globals.get? key = some new) :
    ∃ memory, (comparisonOf first second suppressions).IsHistory memory ∧
      (ofCorpora first second suppressions options).changedVariables.find? (·.key == key) =
        (globalEntry first second suppressions (key, old, new) memory).1 := by
  obtain ⟨before, after, split, others, laterOthers⟩ := exists_split_inBoth ofFirst ofSecond
  have start := isHistory_functions (contextOf first suppressions)
    (comparisonOf first second suppressions) (Side.ofCorpus first) (Side.ofCorpus second)
    (inBoth (Side.ofCorpus first).functions (Side.ofCorpus second).functions)
    (TypeComparison.isHistory_empty _)
  have entry := find?_eachOf (globalEntry first second suppressions) VariableDifference.key
    (fun _ _ _ => key_changedVariable) others laterOthers (old, new)
    (eachOf (functionEntry first second suppressions)
      (inBoth (Side.ofCorpus first).functions (Side.ofCorpus second).functions) ∅).2
  rw [← split, ← changedVariables_ofCorpora first second suppressions options] at entry
  exact ⟨_, isHistory_variables _ _ _ _ before start, entry⟩

/-- Two optional entries give one verdict if they stand for changes together and are left to report
together. -/
theorem map_isFilteredOut_eq {ε : Type} {isReportable hasChanges isFilteredOut : ε → Bool}
    (filtered : ∀ entry, isFilteredOut entry = (hasChanges entry && !isReportable entry))
    {left right : Option ε} {related : ε → ε → Prop}
    (changed : ∀ one other, related one other → hasChanges one = true ∧ hasChanges other = true)
    (carries : ∀ one other, related one other → isReportable other = true → isReportable one = true)
    (there : Option.Rel related left right) (back : Option.Rel related right left) :
    left.map isFilteredOut = right.map isFilteredOut := by
  cases there with
  | none => rfl
  | @some one other there =>
    cases back with
    | some back =>
      obtain ⟨oneChanged, otherChanged⟩ := changed one other there
      have same : isReportable one = isReportable other :=
        Bool.eq_iff_iff.mpr ⟨carries other one back, carries one other there⟩
      rw [Option.map_some, Option.map_some, filtered, filtered, oneChanged, otherChanged, same]

variable {one other : TypeComparison.Memory}

/-- After any comparisons or none, a function is found to have changed or not, and if the comparison of
its types is steady, the verdict is the same. -/
theorem functionEntry_histories
    (histories : (comparisonOf first second suppressions).Histories one other)
    (item : String × Bound FunctionDeclaration × Bound FunctionDeclaration) :
    (functionEntry first second suppressions item one).1.isSome =
        (functionEntry first second suppressions item other).1.isSome ∧
      ((∀ pair ∈ functionPairs item.2.1.1 item.2.2.1,
          (comparisonOf first second suppressions).Steady pair) →
        (functionEntry first second suppressions item one).1.map FunctionDifference.isFilteredOut =
          (functionEntry first second suppressions item other).1.map
            FunctionDifference.isFilteredOut) := by
  constructor
  · have related := relates_changedFunction (contextOf first suppressions)
      (contextOf first suppressions) _ _ (Side.ofCorpus first) (Side.ofCorpus second) rfl rfl item
      (fun pair _ => (comparisonOf first second suppressions).relates_compare pair.1 pair.2 .direct)
      one other histories
    exact isSome_eq_of_rel related.1
  · intro steady
    have related := relates_changedFunction (contextOf first suppressions)
      (contextOf first suppressions) _ _ (Side.ofCorpus first) (Side.ofCorpus second) rfl rfl item
      fun pair member => (steady pair member).relates_compare
    exact map_isFilteredOut_eq (fun _ => rfl) (fun _ _ entries => entries.changed.2)
      (fun _ _ entries => entries.isReportable (fun _ _ carries => carries) rfl fun _ member => member)
      (related one other histories).1 (related other one ⟨histories.2, histories.1⟩).1

/-- After any comparisons or none, a variable is found to have changed or not, and if the comparison of
its type is steady, the verdict is the same. -/
theorem globalEntry_histories
    (histories : (comparisonOf first second suppressions).Histories one other)
    (item : String × Bound VariableDeclaration × Bound VariableDeclaration) :
    (globalEntry first second suppressions item one).1.isSome =
        (globalEntry first second suppressions item other).1.isSome ∧
      ((comparisonOf first second suppressions).Steady (item.2.1.1.type, item.2.2.1.type) →
        (globalEntry first second suppressions item one).1.map VariableDifference.isFilteredOut =
          (globalEntry first second suppressions item other).1.map
            VariableDifference.isFilteredOut) := by
  constructor
  · have related := relates_changedVariable (contextOf first suppressions)
      (contextOf first suppressions) _ _ (Side.ofCorpus first) (Side.ofCorpus second) item
      ((comparisonOf first second suppressions).relates_compare _ _ .direct) one other histories
    exact isSome_eq_of_rel related.1
  · intro steady
    have related := relates_changedVariable (contextOf first suppressions)
      (contextOf first suppressions) _ _ (Side.ofCorpus first) (Side.ofCorpus second) item
      steady.relates_compare
    exact map_isFilteredOut_eq (fun _ => rfl) (fun _ _ entries => entries.changed.2)
      (fun _ _ entries => entries.isReportable (fun _ _ carries => carries) rfl fun _ member => member)
      (related one other histories).1 (related other one ⟨histories.2, histories.1⟩).1

end Difference

end Abiscope
