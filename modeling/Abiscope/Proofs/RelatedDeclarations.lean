import Abiscope.Proofs.HiddenFunctions
import Abiscope.Proofs.RelatedRuns

/-!
# Declarations in two runs

Two runs that compare the same declarations may differ in their suppressions, or in what they remember.
Suppose that whenever their memories are related, comparing two types gives related differences and
leaves related memories. Then the runs find the same functions and variables to have changed, with
differences that are related part by part.

What suppressions make of a function afterwards does not look into these differences: it is said here
once, by which rules hide the whole function and which hide a parameter. So if the second run has at
least the rules of the first one, and no difference in it is left to report that is not left in the
first, then what is left of a function in the second run is left in the first one.
-/

namespace Abiscope

open TypeComparison (Remembering Relates eachOf)

variable {agrees : TypeDifference → TypeDifference → Prop}

/-! ## Differences that agree part by part -/

/-- Two changes of a parameter of one sort, whose differences agree. -/
inductive ParameterChange.Alike (agrees : TypeDifference → TypeDifference → Prop) :
    ParameterChange → ParameterChange → Prop where
  | retyped {left right : TypeDifference} (agree : agrees left right) :
    Alike agrees (.retyped left) (.retyped right)
  | added (type : String) : Alike agrees (.added type) (.added type)
  | removed (type : String) : Alike agrees (.removed type) (.removed type)

/-- Changes of one parameter, not labelled yet, that agree. -/
structure ParameterDifference.Alike (agrees : TypeDifference → TypeDifference → Prop)
    (left right : ParameterDifference) : Prop where
  index : left.index = right.index
  name : left.name = right.name
  change : left.change.Alike agrees right.change
  leftBare : left.suppressedBy = none
  rightBare : right.suppressedBy = none

/-- Differences of one function, not labelled yet, that agree. -/
structure FunctionDifference.Alike (agrees : TypeDifference → TypeDifference → Prop)
    (left right : FunctionDifference) : Prop where
  text : left.text = right.text
  key : left.key = right.key
  location : left.location = right.location
  result : Option.Rel agrees left.result right.result
  parameters : List.Forall₂ (ParameterDifference.Alike agrees) left.parameters right.parameters
  symbolChanges : left.symbolChanges = right.symbolChanges
  leftBare : left.suppressedBy = none
  rightBare : right.suppressedBy = none

namespace FunctionDifference

/-- Differences that agree are changes in both runs or in neither. -/
theorem Alike.hasChanges {left right : FunctionDifference} (alike : Alike agrees left right) :
    left.hasChanges = right.hasChanges := by
  rw [FunctionDifference.hasChanges, FunctionDifference.hasChanges, isSome_eq_of_rel alike.result,
    alike.symbolChanges]
  have parameters := alike.parameters
  cases leftParameters : left.parameters <;> cases rightParameters : right.parameters <;>
    rw [leftParameters, rightParameters] at parameters <;> first | rfl | cases parameters

end FunctionDifference

/-- Differences of one variable that agree, labels aside. -/
structure VariableDifference.Alike (agrees : TypeDifference → TypeDifference → Prop)
    (left right : VariableDifference) : Prop where
  text : left.text = right.text
  key : left.key = right.key
  location : left.location = right.location
  type : Option.Rel agrees left.type right.type
  symbolChanges : left.symbolChanges = right.symbolChanges

/-- Differences that agree are changes in both runs or in neither. -/
theorem VariableDifference.Alike.hasChanges {left right : VariableDifference}
    (alike : left.Alike agrees right) : left.hasChanges = right.hasChanges := by
  rw [VariableDifference.hasChanges, VariableDifference.hasChanges, isSome_eq_of_rel alike.type,
    alike.symbolChanges]

namespace Difference

open Suppression (Binary Changes Context FunctionFacts FunctionRule)

/-! ## The runs over declarations, step by step -/

/-- The change of a parameter that is there on both sides, if there is one. -/
def retypedParameter (comparison : TypeComparison) (item : (Parameter × Parameter) × Nat) :
    Remembering (Option ParameterDifference) := do
  let found ← comparison.compare item.1.1.type item.1.2.type .direct
  return found.map fun difference => ⟨item.2, item.1.1.name, .retyped difference, none⟩

theorem retypedParameters_eq_eachOf (comparison : TypeComparison)
    (items : List ((Parameter × Parameter) × Nat)) :
    retypedParameters comparison items = eachOf (retypedParameter comparison) items := by
  induction items with
  | nil => rfl
  | cons item rest inductionHypothesis =>
    simp only [retypedParameters, eachOf, retypedParameter, inductionHypothesis, bind_assoc, pure_bind]
    refine bind_congr fun found => bind_congr fun others => ?_
    cases found <;> rfl

/-- The entry about a function that is there on both sides, if it changed. -/
def changedFunction (context : Context) (comparison : TypeComparison) (first second : Side)
    (item : String × Bound FunctionDeclaration × Bound FunctionDeclaration) :
    Remembering (Option FunctionDifference) := do
  let difference ← unlabelledFunction comparison first second item.1 item.2.1 item.2.2
  return if difference.hasChanges then
    some (labelFunction context (first.functionFacts item.2.1) context.functionRules difference)
  else none

theorem functionDifferences_eq_eachOf (context : Context) (comparison : TypeComparison)
    (first second : Side)
    (items : List (String × Bound FunctionDeclaration × Bound FunctionDeclaration)) :
    functionDifferences context comparison first second items =
      eachOf (changedFunction context comparison first second) items := by
  induction items with
  | nil => rfl
  | cons item rest inductionHypothesis =>
    simp only [functionDifferences, eachOf, changedFunction, inductionHypothesis, bind_assoc,
      pure_bind]
    refine bind_congr fun difference => bind_congr fun others => ?_
    cases difference.hasChanges <;> rfl

/-- What is known about a variable that is there on both sides once its types are compared. -/
def variableDifference (first second : Side) (key : String) (old new : Bound VariableDeclaration)
    (type : Option TypeDifference) : VariableDifference where
  text := first.corpus.variableText old.1
  key := key
  location := old.1.location
  type := type
  symbolChanges := Symbol.changes true (first.symbolOf? old.2) (second.symbolOf? new.2)

/-- The entry about a variable that is there on both sides, if it changed. -/
def changedVariable (context : Context) (comparison : TypeComparison) (first second : Side)
    (item : String × Bound VariableDeclaration × Bound VariableDeclaration) :
    Remembering (Option VariableDifference) := do
  let type ← comparison.compare item.2.1.1.type item.2.2.1.type .direct
  let difference := variableDifference first second item.1 item.2.1 item.2.2 type
  return if difference.hasChanges then
    some { difference with
      suppressedBy := context.variableLabel? (first.variableFacts item.2.1) Changes.onlySubtype }
  else none

theorem variableDifferences_eq_eachOf (context : Context) (comparison : TypeComparison)
    (first second : Side)
    (items : List (String × Bound VariableDeclaration × Bound VariableDeclaration)) :
    variableDifferences context comparison first second items =
      eachOf (changedVariable context comparison first second) items := by
  induction items with
  | nil => rfl
  | cons item rest inductionHypothesis =>
    simp only [variableDifferences, eachOf, changedVariable, inductionHypothesis, bind_assoc,
      pure_bind]
    refine bind_congr fun type => bind_congr fun others => ?_
    change (if (variableDifference first second item.1 item.2.1 item.2.2 type).hasChanges = true
      then _ else _) = _
    cases (variableDifference first second item.1 item.2.1 item.2.2 type).hasChanges <;> rfl

/-- An entry about a function is what is found about it, with labels, and that has changes. -/
theorem label_changedFunction {context : Context} {comparison : TypeComparison} {first second : Side}
    {item : String × Bound FunctionDeclaration × Bound FunctionDeclaration}
    {memory : TypeComparison.Memory} {found : FunctionDifference}
    (made : (changedFunction context comparison first second item memory).1 = some found) :
    (unlabelledFunction comparison first second item.1 item.2.1 item.2.2 memory).1.hasChanges = true ∧
      labelFunction context (first.functionFacts item.2.1) context.functionRules
        (unlabelledFunction comparison first second item.1 item.2.1 item.2.2 memory).1 = found := by
  change (if (unlabelledFunction comparison first second item.1 item.2.1 item.2.2 memory).1.hasChanges
    then some _ else none) = some found at made
  exact (Option.ite_none_right_eq_some.mp made).imp_right Option.some.inj

/-- An entry about a variable is what is found about it, with a label, and that has changes. -/
theorem label_changedVariable {context : Context} {comparison : TypeComparison} {first second : Side}
    {item : String × Bound VariableDeclaration × Bound VariableDeclaration}
    {memory : TypeComparison.Memory} {found : VariableDifference}
    (made : (changedVariable context comparison first second item memory).1 = some found) :
    (variableDifference first second item.1 item.2.1 item.2.2
        (comparison.compare item.2.1.1.type item.2.2.1.type .direct memory).1).hasChanges = true ∧
      { variableDifference first second item.1 item.2.1 item.2.2
          (comparison.compare item.2.1.1.type item.2.2.1.type .direct memory).1 with
        suppressedBy := context.variableLabel? (first.variableFacts item.2.1) Changes.onlySubtype } =
          found := by
  change (if (variableDifference first second item.1 item.2.1 item.2.2
      (comparison.compare item.2.1.1.type item.2.2.1.type .direct memory).1).hasChanges
    then some _ else none) = some found at made
  exact (Option.ite_none_right_eq_some.mp made).imp_right Option.some.inj

/-- An entry about a function goes by the key of the function. -/
theorem key_changedFunction {context : Context} {comparison : TypeComparison} {first second : Side}
    {item : String × Bound FunctionDeclaration × Bound FunctionDeclaration}
    {memory : TypeComparison.Memory} {found : FunctionDifference}
    (made : (changedFunction context comparison first second item memory).1 = some found) :
    found.key = item.1 := by
  rw [← (label_changedFunction made).2]
  exact (key_labelFunction _ _ _ _).1

/-- An entry about a variable goes by the key of the variable. -/
theorem key_changedVariable {context : Context} {comparison : TypeComparison} {first second : Side}
    {item : String × Bound VariableDeclaration × Bound VariableDeclaration}
    {memory : TypeComparison.Memory} {found : VariableDifference}
    (made : (changedVariable context comparison first second item memory).1 = some found) :
    found.key = item.1 := by
  rw [← (label_changedVariable made).2]
  rfl

/-- The rules that a comparison of two corpora goes by. -/
def contextOf (first : Corpus) (suppressions : List Suppression) : Context :=
  ⟨suppressions, ⟨first.soname, first.path⟩⟩

/-- The comparison of the types of two corpora. -/
def comparisonOf (first second : Corpus) (suppressions : List Suppression) : TypeComparison :=
  ⟨first.types, second.types, (contextOf first suppressions).typeLabel?⟩

/-- What is made of a function on both sides when two corpora are compared. -/
def functionEntry (first second : Corpus) (suppressions : List Suppression) :
    String × Bound FunctionDeclaration × Bound FunctionDeclaration →
      Remembering (Option FunctionDifference) :=
  changedFunction (contextOf first suppressions) (comparisonOf first second suppressions)
    (Side.ofCorpus first) (Side.ofCorpus second)

/-- What is made of a variable on both sides when two corpora are compared. -/
def globalEntry (first second : Corpus) (suppressions : List Suppression) :
    String × Bound VariableDeclaration × Bound VariableDeclaration →
      Remembering (Option VariableDifference) :=
  changedVariable (contextOf first suppressions) (comparisonOf first second suppressions)
    (Side.ofCorpus first) (Side.ofCorpus second)

/-- The symbols on one side only that a comparison lists. -/
def listedSymbols (options : Options) (context : Context) (change : Changes) (here there : Corpus) :
    List SymbolChange :=
  if options.showUnreferenced then
    unreferenced context change (Side.ofCorpus here) (Side.ofCorpus there)
  else []

/-- The functions are compared first, with nothing remembered. -/
theorem changedFunctions_ofCorpora (first second : Corpus) (suppressions : List Suppression)
    (options : Options) :
    (ofCorpora first second suppressions options).changedFunctions =
      (eachOf (functionEntry first second suppressions)
        (inBoth (Side.ofCorpus first).functions (Side.ofCorpus second).functions) ∅).1 := by
  rw [functionEntry, ← functionDifferences_eq_eachOf]
  rfl

/-- The variables are compared with what is remembered of the functions. -/
theorem changedVariables_ofCorpora (first second : Corpus) (suppressions : List Suppression)
    (options : Options) :
    (ofCorpora first second suppressions options).changedVariables =
      (eachOf (globalEntry first second suppressions)
        (inBoth (Side.ofCorpus first).globals (Side.ofCorpus second).globals)
        (eachOf (functionEntry first second suppressions)
          (inBoth (Side.ofCorpus first).functions (Side.ofCorpus second).functions) ∅).2).1 := by
  rw [functionEntry, globalEntry, ← functionDifferences_eq_eachOf, ← variableDifferences_eq_eachOf]
  rfl

/-! ## Related runs over declarations -/

variable {memories : TypeComparison.Memory → TypeComparison.Memory → Prop}
  {one other : TypeComparison} {first second : Side}

/-- The pairs of types that are compared for a function. -/
def functionPairs (old new : FunctionDeclaration) : List (Nat × Nat) :=
  (old.result, new.result) ::
    (old.parameters.zip new.parameters).map fun (old, new) => (old.type, new.type)

/-- Parameters on one side only are the same in both runs. -/
theorem furtherParameters_alike (graph : TypeGraph) (change : String → ParameterChange)
    (same : ∀ type, (change type).Alike agrees (change type)) (count : Nat)
    (parameters : List Parameter) :
    List.Forall₂ (ParameterDifference.Alike agrees)
      (furtherParameters graph change count parameters)
      (furtherParameters graph change count parameters) := by
  refine List.forall₂_same.mpr fun difference member => ?_
  obtain ⟨⟨parameter, index⟩, _, rfl⟩ := List.mem_map.mp member
  exact ⟨rfl, rfl, same _, rfl, rfl⟩

/-- If the comparisons of the types of a function are related, the differences found agree. -/
theorem relates_unlabelledFunction (firsts : one.first = other.first)
    (seconds : one.second = other.second) (key : String) (old new : Bound FunctionDeclaration)
    (compared : ∀ pair ∈ functionPairs old.1 new.1, Relates memories (Option.Rel agrees)
      (one.compare pair.1 pair.2 .direct) (other.compare pair.1 pair.2 .direct)) :
    Relates memories (FunctionDifference.Alike agrees)
      (unlabelledFunction one first second key old new)
      (unlabelledFunction other first second key old new) := by
  have parameters : Relates memories (List.Forall₂ (ParameterDifference.Alike agrees))
      (parameterDifferences one old.1.parameters new.1.parameters)
      (parameterDifferences other old.1.parameters new.1.parameters) := by
    rw [parameterDifferences, parameterDifferences, retypedParameters_eq_eachOf,
      retypedParameters_eq_eachOf]
    have retyped : Relates memories (List.Forall₂ (ParameterDifference.Alike agrees))
        (eachOf (retypedParameter one) (old.1.parameters.zip new.1.parameters).zipIdx)
        (eachOf (retypedParameter other) (old.1.parameters.zip new.1.parameters).zipIdx) := by
      refine .eachOf ?_
      rintro ⟨⟨oldParameter, newParameter⟩, index⟩ member
      have isPair : (oldParameter.type, newParameter.type) ∈ functionPairs old.1 new.1 :=
        List.mem_cons_of_mem _ (List.mem_map_of_mem (List.fst_mem_of_mem_zipIdx member))
      refine .bind (compared _ isPair) fun left right found => .pure ?_
      cases found with
      | none => exact .none
      | some agree => exact .some ⟨rfl, rfl, .retyped agree, rfl, rfl⟩
    refine .bind retyped fun left right found => ?_
    rw [firsts, seconds]
    exact .pure (List.rel_append (List.rel_append found
      (furtherParameters_alike _ _ .removed _ _)) (furtherParameters_alike _ _ .added _ _))
  refine .bind (compared _ List.mem_cons_self) fun left right result => ?_
  refine .bind parameters fun leftParameters rightParameters related => ?_
  exact .pure ⟨rfl, rfl, rfl, result, related, rfl, rfl, rfl⟩

variable {few many : Context}

/-- Entries about a function in two runs: differences that agree, labelled by the rules of each run. -/
def FunctionsRelated (agrees : TypeDifference → TypeDifference → Prop) (few many : Context)
    (left right : FunctionDifference) : Prop :=
  ∃ facts, ∃ bareLeft bareRight : FunctionDifference,
    bareLeft.Alike agrees bareRight ∧ bareLeft.hasChanges = true ∧
    left = labelFunction few facts few.functionRules bareLeft ∧
    right = labelFunction many facts many.functionRules bareRight

/-- Entries about a variable in two runs: differences that agree, labelled by the rules of each run. -/
def VariablesRelated (agrees : TypeDifference → TypeDifference → Prop) (few many : Context)
    (left right : VariableDifference) : Prop :=
  ∃ facts, ∃ bareLeft bareRight : VariableDifference,
    bareLeft.Alike agrees bareRight ∧ bareLeft.hasChanges = true ∧
    left = { bareLeft with suppressedBy := few.variableLabel? facts Changes.onlySubtype } ∧
    right = { bareRight with suppressedBy := many.variableLabel? facts Changes.onlySubtype }

/-- If the comparisons of the types of a function are related, it has related entries or none. -/
theorem relates_changedFunction (few many : Context) (one other : TypeComparison)
    (first second : Side) (firsts : one.first = other.first) (seconds : one.second = other.second)
    (item : String × Bound FunctionDeclaration × Bound FunctionDeclaration)
    (compared : ∀ pair ∈ functionPairs item.2.1.1 item.2.2.1, Relates memories (Option.Rel agrees)
      (one.compare pair.1 pair.2 .direct) (other.compare pair.1 pair.2 .direct)) :
    Relates memories (Option.Rel (FunctionsRelated agrees few many))
      (changedFunction few one first second item) (changedFunction many other first second item) := by
  refine .bind (relates_unlabelledFunction firsts seconds item.1 item.2.1 item.2.2 compared)
    fun left right alike => .pure ?_
  have same := alike.hasChanges
  cases changed : left.hasChanges with
  | false =>
    rw [← same, changed]
    exact .none
  | true =>
    rw [← same, changed]
    exact .some ⟨first.functionFacts item.2.1, left, right, alike, changed, rfl, rfl⟩

/-- If the comparisons of the types of a variable are related, it has related entries or none. -/
theorem relates_changedVariable (few many : Context) (one other : TypeComparison)
    (first second : Side)
    (item : String × Bound VariableDeclaration × Bound VariableDeclaration)
    (compared : Relates memories (Option.Rel agrees)
      (one.compare item.2.1.1.type item.2.2.1.type .direct)
      (other.compare item.2.1.1.type item.2.2.1.type .direct)) :
    Relates memories (Option.Rel (VariablesRelated agrees few many))
      (changedVariable few one first second item) (changedVariable many other first second item) := by
  refine .bind compared fun left right type => .pure ?_
  have alike : (variableDifference first second item.1 item.2.1 item.2.2 left).Alike agrees
      (variableDifference first second item.1 item.2.1 item.2.2 right) := ⟨rfl, rfl, rfl, type, rfl⟩
  have same := alike.hasChanges
  cases changed : (variableDifference first second item.1 item.2.1 item.2.2 left).hasChanges with
  | false =>
    rw [← same, changed]
    exact .none
  | true =>
    rw [← same, changed]
    exact .some ⟨first.variableFacts item.2.1, _, _, alike, changed, rfl, rfl⟩

/-! ## What is left to report in related runs -/

/-- Of related entries, both stand for changes, under one key. -/
theorem FunctionsRelated.changed {left right : FunctionDifference}
    (related : FunctionsRelated agrees few many left right) :
    left.key = right.key ∧ left.hasChanges = true ∧ right.hasChanges = true := by
  obtain ⟨facts, bareLeft, bareRight, alike, changed, rfl, rfl⟩ := related
  obtain ⟨leftKey, leftChanges⟩ :=
    key_labelFunction few facts few.functionRules bareLeft
  obtain ⟨rightKey, rightChanges⟩ :=
    key_labelFunction many facts many.functionRules bareRight
  exact ⟨leftKey.trans (alike.key.trans rightKey.symm), leftChanges.trans changed,
    rightChanges.trans (alike.hasChanges.symm.trans changed)⟩

/-- Of related entries, both stand for changes, under one key. -/
theorem VariablesRelated.changed {left right : VariableDifference}
    (related : VariablesRelated agrees few many left right) :
    left.key = right.key ∧ left.hasChanges = true ∧ right.hasChanges = true := by
  obtain ⟨facts, bareLeft, bareRight, alike, changed, rfl, rfl⟩ := related
  exact ⟨alike.key, changed, alike.hasChanges.symm.trans changed⟩

/-- What more rules leave of a parameter, fewer rules leave of it, if the differences of its types are
carried over. -/
theorem isReportable_of_alike {left right : ParameterDifference} (alike : left.Alike agrees right)
    (carries : ∀ one other, agrees one other → other.isReportable = true → one.isReportable = true)
    (reportable : right.isReportable = true) : left.isReportable = true := by
  obtain ⟨_, _, change, leftBare, rightBare⟩ := alike
  obtain ⟨index, name, leftChange, leftLabel⟩ := left
  obtain ⟨_, _, rightChange, rightLabel⟩ := right
  subst leftBare rightBare
  rw [ParameterDifference.isReportable, Bool.and_eq_true] at reportable ⊢
  refine ⟨rfl, ?_⟩
  cases change with
  | retyped agree => exact carries _ _ agree reportable.2
  | added type => rfl
  | removed type => rfl

/-- What more rules leave of a function, fewer rules leave of it, if the differences of its types are
carried over. -/
theorem FunctionsRelated.isReportable {left right : FunctionDifference}
    (related : FunctionsRelated agrees few many left right)
    (carries : ∀ one other, agrees one other → other.isReportable = true → one.isReportable = true)
    (binary : few.binary = many.binary)
    (fewer : ∀ rule ∈ few.functionRules, rule ∈ many.functionRules)
    (reportable : right.isReportable = true) : left.isReportable = true := by
  obtain ⟨facts, bareLeft, bareRight, alike, _, rfl, rfl⟩ := related
  rw [isReportable_labelFunction, Bool.and_eq_true, Bool.and_eq_true, Bool.or_eq_true,
    Bool.or_eq_true] at reportable ⊢
  obtain ⟨⟨_, whole⟩, found⟩ := reportable
  rw [Bool.not_eq_true'] at whole
  refine ⟨⟨?_, ?_⟩, ?_⟩
  · rw [FunctionDifference.isSuppressed, alike.leftBare]
    rfl
  · rw [Bool.not_eq_true', binary]
    exact any_eq_false_of_subset fewer whole
  · rcases found with (result | parameter) | symbol
    · exact Or.inl (Or.inl (any_of_rel alike.result carries result))
    · refine Or.inl (Or.inr (any_of_forall₂ alike.parameters ?_ parameter))
      intro one other same left
      rw [Bool.and_eq_true, Bool.not_eq_true'] at left ⊢
      refine ⟨isReportable_of_alike same carries left.1, ?_⟩
      rw [binary, same.index]
      exact any_eq_false_of_subset fewer left.2
    · rw [alike.symbolChanges]
      exact Or.inr symbol

/-- A variable goes without a label exactly if no rule applies to it. -/
theorem variableLabel?_eq_none (context : Context) (facts : Suppression.VariableFacts)
    (change : Changes) :
    context.variableLabel? facts change = none ↔
      (context.variableRules.any fun rule => rule.suppresses context.binary facts change) = false := by
  rw [Context.variableLabel?, Option.map_eq_none_iff, List.find?_eq_none, List.any_eq_false]

/-- What more rules leave of a variable, fewer rules leave of it, if the difference of its type is
carried over. -/
theorem VariablesRelated.isReportable {left right : VariableDifference}
    (related : VariablesRelated agrees few many left right)
    (carries : ∀ one other, agrees one other → other.isReportable = true → one.isReportable = true)
    (binary : few.binary = many.binary)
    (fewer : ∀ rule ∈ few.variableRules, rule ∈ many.variableRules)
    (reportable : right.isReportable = true) : left.isReportable = true := by
  obtain ⟨facts, bareLeft, bareRight, alike, _, rfl, rfl⟩ := related
  rw [VariableDifference.isReportable, Bool.and_eq_true, VariableDifference.isSuppressed,
    Bool.not_eq_true', Option.isSome_eq_false_iff, Option.isNone_iff_eq_none, variableLabel?_eq_none,
    Bool.or_eq_true] at reportable ⊢
  obtain ⟨whole, found⟩ := reportable
  refine ⟨?_, ?_⟩
  · rw [binary]
    exact any_eq_false_of_subset fewer whole
  · rcases found with type | symbol
    · exact Or.inl (any_of_rel alike.type carries type)
    · rw [alike.symbolChanges]
      exact Or.inr symbol

end Difference

end Abiscope
