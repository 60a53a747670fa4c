import Abiscope.Proofs.DifferenceTrees
import Abiscope.Proofs.FirstRules
import Abiscope.Proofs.LoneDeclarations
import Abiscope.Proofs.MirroredDifferences

/-!
# What is told about functions that changed

A function that is there on both sides is listed as changed exactly if something about it differs: the
number of its parameters, a type that the comparison of its result and of its common parameters leads
to, or its symbol. No entry is empty, and no change of a function goes without an entry.

What an entry tells about parameters goes by their positions, in ascending order. At a position of both
lists a parameter is told exactly if its types differ. The longer list has positions that the other one
lacks: all of these are told, and there is nothing else to tell. Labels do not matter for any of this.
-/

namespace Abiscope

namespace TypeComparison

variable {comparison : TypeComparison} {α β : Type}

/-- Two types differ: the comparison of them leads to a pair with changes of its own. -/
def Differ (comparison : TypeComparison) (pair : Nat × Nat) : Prop :=
  ∃ other, Relation.ReflTransGen comparison.Steps pair other ∧ comparison.changesAt other ≠ []

/-- Types differ exactly if they are not unchanged. -/
theorem not_unchanged_iff {pair : Nat × Nat} : ¬comparison.Unchanged pair ↔ comparison.Differ pair := by
  simp only [Unchanged, Differ, not_forall, exists_prop, ne_eq]

/-- What is found when going through items was made of one of them after some comparisons. -/
theorem Decides.exists_of_mem_eachOf {condition : α → Prop} {make : α → Remembering (Option β)}
    {items : List α}
    (decides : ∀ item ∈ items, comparison.Decides (condition item) Option.isNone (make item))
    {memory : Memory} (history : comparison.IsHistory memory) {found : β}
    (member : found ∈ (TypeComparison.eachOf make items memory).1) :
    ∃ item ∈ items, ∃ between, comparison.IsHistory between ∧ (make item between).1 = some found := by
  induction items generalizing memory with
  | nil => contradiction
  | cons item rest inductionHypothesis =>
    rcases List.mem_append.mp member with first | later
    · exact ⟨item, List.mem_cons_self, memory, history, Option.mem_toList.mp first⟩
    · obtain ⟨other, otherMember, made⟩ := inductionHypothesis
        (fun later isRest => decides later (List.mem_cons_of_mem _ isRest))
        (decides item List.mem_cons_self memory history).2 later
      exact ⟨other, List.mem_cons_of_mem _ otherMember, made⟩

end TypeComparison

namespace Difference

open TypeComparison (Memory)

variable {comparison : TypeComparison}

/-! ## What an entry tells about parameters -/

/-- What an entry tells about parameters, labels aside: their positions with what happened there. -/
def told (parameters : List ParameterDifference) : List (Nat × ParameterChange) :=
  parameters.map fun parameter => (parameter.index, parameter.change)

/-- What is told about the parameters of a function is all that differs between the old and the new ones.
-/
structure TellsParameters (comparison : TypeComparison) (old new : List Parameter)
    (told : List (Nat × ParameterChange)) : Prop where
  /-- The positions are in strictly ascending order, so every position is told at most once. -/
  ascending : told.Pairwise fun left right => left.1 < right.1
  /-- A position of both lists is told exactly if its types differ. -/
  common : ∀ index oldParameter newParameter,
    old[index]? = some oldParameter → new[index]? = some newParameter →
      ((∃ change, (index, change) ∈ told) ↔
        comparison.Differ (oldParameter.type, newParameter.type))
  /-- What is told there is a difference between these types. -/
  retyped : ∀ index oldParameter newParameter,
    old[index]? = some oldParameter → new[index]? = some newParameter →
      ∀ change, (index, change) ∈ told → ∃ difference, change = .retyped difference ∧
        difference.finding.pair = (oldParameter.type, newParameter.type)
  /-- Every old parameter behind the new ones was removed. -/
  removed : ∀ index parameter, old[index]? = some parameter → new.length ≤ index →
    (index, .removed (comparison.first.name parameter.type)) ∈ told
  /-- Every new parameter behind the old ones was added. -/
  added : ∀ index parameter, new[index]? = some parameter → old.length ≤ index →
    (index, .added (comparison.second.name parameter.type)) ∈ told
  /-- No other positions are told. -/
  inside : ∀ entry ∈ told, entry.1 < max old.length new.length

/-- Items are numbered in ascending order. -/
theorem ascending_zipIdx {α : Type} (items : List α) :
    items.zipIdx.Pairwise fun left right => left.2 < right.2 := by
  rw [← List.pairwise_map (f := Prod.snd), List.zipIdx_map_snd]
  exact List.pairwise_lt_range'

/-- What is told about the parameters behind the first ones. -/
theorem mem_told_furtherParameters (graph : TypeGraph) (change : String → ParameterChange)
    (count : Nat) (parameters : List Parameter) (entry : Nat × ParameterChange) :
    entry ∈ told (furtherParameters graph change count parameters) ↔
      count ≤ entry.1 ∧ ∃ parameter, parameters[entry.1]? = some parameter ∧
        entry.2 = change (graph.name parameter.type) := by
  have position (parameter : Parameter) (index : Nat) :
      (parameter, index) ∈ parameters.zipIdx.drop count ↔
        count ≤ index ∧ parameters[index]? = some parameter := by
    simp only [List.mem_iff_getElem?, List.getElem?_drop, List.getElem?_zipIdx, Option.map_eq_some_iff,
      Prod.mk.injEq, Nat.zero_add]
    constructor
    · rintro ⟨place, _, found, rfl, rfl⟩
      exact ⟨Nat.le_add_right _ _, found⟩
    · rintro ⟨behind, found⟩
      refine ⟨index - count, parameter, ?_, rfl, Nat.add_sub_cancel' behind⟩
      rw [Nat.add_sub_cancel' behind]
      exact found
  rw [told, furtherParameters, List.map_map, List.mem_map]
  constructor
  · rintro ⟨⟨parameter, index⟩, member, rfl⟩
    obtain ⟨behind, found⟩ := (position parameter index).mp member
    exact ⟨behind, parameter, found, rfl⟩
  · rintro ⟨behind, parameter, found, changed⟩
    exact ⟨(parameter, entry.1), (position parameter entry.1).mpr ⟨behind, found⟩,
      Prod.ext rfl changed.symm⟩

/-- The parameters behind the first ones are told in ascending order. -/
theorem ascending_told_furtherParameters (graph : TypeGraph) (change : String → ParameterChange)
    (count : Nat) (parameters : List Parameter) :
    (told (furtherParameters graph change count parameters)).Pairwise fun left right =>
      left.1 < right.1 := by
  rw [told, furtherParameters, List.map_map, List.pairwise_map]
  exact (ascending_zipIdx parameters).sublist (List.drop_sublist _ _)

/-- Positions of the parameters that two functions have in common. -/
theorem mem_zipIdx_zip {old new : List Parameter} {item : (Parameter × Parameter) × Nat} :
    item ∈ (old.zip new).zipIdx ↔
      old[item.2]? = some item.1.1 ∧ new[item.2]? = some item.1.2 := by
  rw [List.mem_zipIdx_iff_getElem?, List.getElem?_zip_eq_some]

/-- The change of a common parameter is the difference between its types. -/
theorem retyped_of_mem {old new : List Parameter} {memory : Memory}
    (history : comparison.IsHistory memory) {entry : Nat × ParameterChange}
    (member : entry ∈ told (retypedParameters comparison (old.zip new).zipIdx memory).1) :
    ∃ oldParameter newParameter, old[entry.1]? = some oldParameter ∧
      new[entry.1]? = some newParameter ∧ ∃ difference, entry.2 = .retyped difference ∧
        difference.finding.pair = (oldParameter.type, newParameter.type) := by
  rw [retypedParameters_eq_eachOf] at member
  obtain ⟨found, listed, rfl⟩ := List.mem_map.mp member
  obtain ⟨⟨⟨oldParameter, newParameter⟩, index⟩, isItem, between, ⟨calls, rfl⟩, made⟩ :=
    TypeComparison.Decides.exists_of_mem_eachOf (fun item _ => decides_retypedParameter item) history
      listed
  obtain ⟨inOld, inNew⟩ := mem_zipIdx_zip.mp isItem
  obtain ⟨difference, compared, rfl⟩ := Option.map_eq_some_iff.mp made
  exact ⟨oldParameter, newParameter, inOld, inNew, difference, rfl,
    (TypeComparison.foundFor_compare compared).finding.1⟩

/-- The common parameters are told whose types differ, in ascending order. -/
theorem indices_told_retypedParameters (old new : List Parameter) {memory : Memory}
    (history : comparison.IsHistory memory) :
    let retyped := told (retypedParameters comparison (old.zip new).zipIdx memory).1
    (retyped.Pairwise fun left right => left.1 < right.1) ∧
      ∀ index oldParameter newParameter, old[index]? = some oldParameter →
        new[index]? = some newParameter →
          ((∃ change, (index, change) ∈ retyped) ↔
            comparison.Differ (oldParameter.type, newParameter.type)) := by
  classical
  intro retyped
  have listed : (TypeComparison.eachOf (retypedParameter comparison) (old.zip new).zipIdx memory).1.map
      ParameterDifference.index = ((old.zip new).zipIdx.filter fun item =>
        !decide (comparison.Unchanged (item.1.1.type, item.1.2.type))).map Prod.snd := by
    refine TypeComparison.Decides.map_eachOf (fun item _ => decides_retypedParameter item) ?_ history
    intro item between found made
    obtain ⟨_, _, rfl⟩ := Option.map_eq_some_iff.mp made
    rfl
  have indices : retyped.map Prod.fst = ((old.zip new).zipIdx.filter fun item =>
      !decide (comparison.Unchanged (item.1.1.type, item.1.2.type))).map Prod.snd := by
    rw [← listed, ← retypedParameters_eq_eachOf]
    exact List.map_map
  constructor
  · rw [← List.pairwise_map (f := Prod.fst), indices, List.pairwise_map]
    exact (ascending_zipIdx _).sublist List.filter_sublist
  · intro index oldParameter newParameter inOld inNew
    have mentioned : (∃ change, (index, change) ∈ retyped) ↔ index ∈ retyped.map Prod.fst := by
      simp only [List.mem_map, Prod.exists, exists_eq_right, exists_and_right]
    rw [mentioned, indices, ← TypeComparison.not_unchanged_iff, List.mem_map]
    simp only [List.mem_filter, mem_zipIdx_zip, Bool.not_eq_true', decide_eq_false_iff_not]
    constructor
    · rintro ⟨item, ⟨⟨isOld, isNew⟩, differ⟩, rfl⟩
      rw [inOld, Option.some_inj] at isOld
      rw [inNew, Option.some_inj] at isNew
      rw [isOld, isNew]
      exact differ
    · intro differ
      exact ⟨((oldParameter, newParameter), index), ⟨⟨inOld, inNew⟩, differ⟩, rfl⟩

/-- First the common parameters are told, then the further old ones, then the further new ones. -/
theorem told_parameterDifferences (old new : List Parameter) (memory : Memory) :
    told (parameterDifferences comparison old new memory).1 =
      told (retypedParameters comparison (old.zip new).zipIdx memory).1 ++
        (told (furtherParameters comparison.first .removed new.length old) ++
          told (furtherParameters comparison.second .added old.length new)) := by
  rw [← List.append_assoc]
  exact (List.map_append).trans (congrArg (· ++ _) List.map_append)

/-- What is told about the parameters of a function, after any comparisons, is all that differs.

Proof: the positions of both lists come first. Then come those of the longer list, as the shorter one
has no positions that the longer one lacks. -/
theorem tells_parameterDifferences (old new : List Parameter) {memory : Memory}
    (history : comparison.IsHistory memory) :
    TellsParameters comparison old new (told (parameterDifferences comparison old new memory).1) := by
  rw [told_parameterDifferences]
  obtain ⟨ascending, common⟩ := indices_told_retypedParameters old new history
  have within {parameters : List Parameter} {index : Nat} {parameter : Parameter}
      (found : parameters[index]? = some parameter) : index < parameters.length :=
    (List.getElem?_eq_some_iff.mp found).1
  have both {entry : Nat × ParameterChange}
      (member : entry ∈ told (retypedParameters comparison (old.zip new).zipIdx memory).1) :
      entry.1 < old.length ∧ entry.1 < new.length := by
    obtain ⟨_, _, inOld, inNew, _⟩ := retyped_of_mem history member
    exact ⟨within inOld, within inNew⟩
  have parts (entry : Nat × ParameterChange) :
      entry ∈ told (retypedParameters comparison (old.zip new).zipIdx memory).1 ++
          (told (furtherParameters comparison.first .removed new.length old) ++
            told (furtherParameters comparison.second .added old.length new)) ↔
        entry ∈ told (retypedParameters comparison (old.zip new).zipIdx memory).1 ∨
          (new.length ≤ entry.1 ∧ ∃ parameter, old[entry.1]? = some parameter ∧
            entry.2 = .removed (comparison.first.name parameter.type)) ∨
          old.length ≤ entry.1 ∧ ∃ parameter, new[entry.1]? = some parameter ∧
            entry.2 = .added (comparison.second.name parameter.type) := by
    rw [List.mem_append, List.mem_append, mem_told_furtherParameters, mem_told_furtherParameters]
  refine ⟨?ascending, ?common, ?retyped, ?removed, ?added, ?inside⟩
  case ascending =>
    rw [List.pairwise_append, List.pairwise_append]
    refine ⟨ascending, ⟨ascending_told_furtherParameters _ _ _ _,
      ascending_told_furtherParameters _ _ _ _, ?_⟩, ?_⟩
    · intro left isRemoved right isAdded
      obtain ⟨_, _, inOld, _⟩ := (mem_told_furtherParameters _ _ _ _ left).mp isRemoved
      exact Nat.lt_of_lt_of_le (within inOld) ((mem_told_furtherParameters _ _ _ _ right).mp isAdded).1
    · intro left isRetyped right isFurther
      rcases List.mem_append.mp isFurther with isRemoved | isAdded
      · exact Nat.lt_of_lt_of_le (both isRetyped).2
          ((mem_told_furtherParameters _ _ _ _ right).mp isRemoved).1
      · exact Nat.lt_of_lt_of_le (both isRetyped).1
          ((mem_told_furtherParameters _ _ _ _ right).mp isAdded).1
  case common =>
    intro index oldParameter newParameter inOld inNew
    rw [← common index oldParameter newParameter inOld inNew]
    simp only [parts, Nat.not_le.mpr (within inOld), Nat.not_le.mpr (within inNew), false_and, or_false]
  case retyped =>
    intro index oldParameter newParameter inOld inNew change member
    simp only [parts, Nat.not_le.mpr (within inOld), Nat.not_le.mpr (within inNew), false_and,
      or_false] at member
    obtain ⟨_, _, isOld, isNew, rest⟩ := retyped_of_mem history member
    rw [inOld, Option.some_inj] at isOld
    rw [inNew, Option.some_inj] at isNew
    rw [isOld, isNew]
    exact rest
  case removed =>
    exact fun index parameter inOld behind => (parts _).mpr (.inr (.inl ⟨behind, parameter, inOld, rfl⟩))
  case added =>
    exact fun index parameter inNew behind => (parts _).mpr (.inr (.inr ⟨behind, parameter, inNew, rfl⟩))
  case inside =>
    intro entry member
    rcases (parts entry).mp member with isRetyped | ⟨_, _, inOld, _⟩ | ⟨_, _, inNew, _⟩
    · exact Nat.lt_of_lt_of_le (both isRetyped).1 (Nat.le_max_left _ _)
    · exact Nat.lt_of_lt_of_le (within inOld) (Nat.le_max_left _ _)
    · exact Nat.lt_of_lt_of_le (within inNew) (Nat.le_max_right _ _)

/-! ## When there is an entry -/

/-- The symbols of two declarations differ: both have one, and these differ in version, binding, kind or
visibility. -/
def SymbolsDiffer (old new : Option Symbol) : Prop :=
  ∃ oldSymbol newSymbol, old = some oldSymbol ∧ new = some newSymbol ∧
    (oldSymbol.version.name ≠ newSymbol.version.name ∨ oldSymbol.binding ≠ newSymbol.binding ∨
      oldSymbol.kind ≠ newSymbol.kind ∨ oldSymbol.visibility ≠ newSymbol.visibility)

/-- Where sizes do not matter, there are changes exactly if the symbols differ. -/
theorem changes_ne_nil_iff (old new : Option Symbol) :
    Symbol.changes false old new ≠ [] ↔ SymbolsDiffer old new := by
  cases old with
  | none => simp [Symbol.changes, SymbolsDiffer]
  | some old =>
    cases new with
    | none => simp [Symbol.changes, SymbolsDiffer]
    | some new =>
      simp only [Symbol.changes, SymbolsDiffer, Option.some_inj, exists_and_left, exists_eq_left', ne_eq,
        List.append_eq_nil_iff, ite_eq_left_iff, beq_iff_eq, reduceCtorEq, imp_false, not_not,
        Bool.false_and, Bool.false_eq_true, if_false, and_true, not_and_or, or_assoc]

/-- A function has changed exactly if the number of its parameters differs, or types that it and the
other one have in common, or their symbols. -/
theorem not_functionUnchanged_iff {first second : Side} {old new : Bound FunctionDeclaration} :
    ¬FunctionUnchanged comparison first second old new ↔
      old.1.parameters.length ≠ new.1.parameters.length ∨
        (∃ pair ∈ functionPairs old.1 new.1, comparison.Differ pair) ∨
        SymbolsDiffer (first.symbolOf? old.2) (second.symbolOf? new.2) := by
  have parts : FunctionUnchanged comparison first second old new ↔
      old.1.parameters.length = new.1.parameters.length ∧
        (∀ pair ∈ functionPairs old.1 new.1, comparison.Unchanged pair) ∧
        Symbol.changes false (first.symbolOf? old.2) (second.symbolOf? new.2) = [] :=
    ⟨fun unchanged => ⟨unchanged.count, unchanged.types, unchanged.symbol⟩,
      fun ⟨count, types, symbol⟩ => ⟨types, count, symbol⟩⟩
  rw [parts, not_and_or, not_and_or, ← changes_ne_nil_iff]
  simp only [not_forall, exists_prop, TypeComparison.not_unchanged_iff, ne_eq]

/-- Labels do not change what is told about parameters. -/
theorem told_labelFunction (context : Suppression.Context) (facts : Suppression.FunctionFacts)
    (rules : List Suppression.FunctionRule) (difference : FunctionDifference) :
    told (labelFunction context facts rules difference).parameters = told difference.parameters := by
  rw [labelFunction_eq, told, told, List.map_map]
  rfl

variable {first second : Corpus} {suppressions : List Suppression} {options : Options} {key : String}
  {old new : Bound FunctionDeclaration}

/-- An entry about a function that is on both sides is made of it, after some comparisons. -/
theorem exists_history_of_mem_changedFunctions
    (ofFirst : (Side.ofCorpus first).functions.get? key = some old)
    (ofSecond : (Side.ofCorpus second).functions.get? key = some new) {entry : FunctionDifference}
    (member : entry ∈ (ofCorpora first second suppressions options).changedFunctions)
    (named : entry.key = key) :
    ∃ memory, (comparisonOf first second suppressions).IsHistory memory ∧
      (functionEntry first second suppressions (key, old, new) memory).1 = some entry := by
  rw [changedFunctions_ofCorpora] at member
  obtain ⟨⟨itemKey, itemOld, itemNew⟩, isItem, memory, history, made⟩ :=
    TypeComparison.Decides.exists_of_mem_eachOf
      (fun item _ => decides_changedFunction (contextOf first suppressions) (Side.ofCorpus first)
        (Side.ofCorpus second) item)
      (TypeComparison.isHistory_empty (comparisonOf first second suppressions)) member
  obtain rfl : itemKey = key := (key_changedFunction made).symm.trans named
  obtain ⟨isOld, isNew⟩ := (mem_inBoth _ _ _).mp isItem
  obtain rfl : itemOld = old := Option.some.inj (isOld.symm.trans ofFirst)
  obtain rfl : itemNew = new := Option.some.inj (isNew.symm.trans ofSecond)
  exact ⟨memory, history, made⟩

/-- A function that is on both sides has an entry exactly if the number of its parameters differs, or the
types of its result or of common parameters, or its symbols. What an entry tells about parameters is all
that differs between them. -/
theorem changedFunctions_iff_differ (suppressions : List Suppression) (options : Options)
    (ofFirst : (Side.ofCorpus first).functions.get? key = some old)
    (ofSecond : (Side.ofCorpus second).functions.get? key = some new) :
    ((∃ entry ∈ (ofCorpora first second suppressions options).changedFunctions, entry.key = key) ↔
        old.1.parameters.length ≠ new.1.parameters.length ∨
          (∃ pair ∈ functionPairs old.1 new.1,
            (comparisonOf first second suppressions).Differ pair) ∨
          SymbolsDiffer ((Side.ofCorpus first).symbolOf? old.2)
            ((Side.ofCorpus second).symbolOf? new.2)) ∧
      ∀ entry ∈ (ofCorpora first second suppressions options).changedFunctions, entry.key = key →
        TellsParameters (comparisonOf first second suppressions) old.1.parameters new.1.parameters
          (told entry.parameters) := by
  constructor
  · obtain ⟨memory, history, found⟩ := find?_changedFunctions suppressions options ofFirst ofSecond
    have decided := (decides_changedFunction (contextOf first suppressions) (Side.ofCorpus first)
      (Side.ofCorpus second) (key, old, new) memory history).1
    have listed : (∃ entry ∈ (ofCorpora first second suppressions options).changedFunctions,
        entry.key = key) ↔
        ¬(functionEntry first second suppressions (key, old, new) memory).1.isNone = true := by
      rw [← found, Bool.not_eq_true, Option.isNone_eq_false_iff, List.find?_isSome]
      simp only [beq_iff_eq]
    rw [listed, ← not_functionUnchanged_iff, ← decided]
    rfl
  · intro entry member named
    obtain ⟨memory, history, made⟩ :=
      exists_history_of_mem_changedFunctions ofFirst ofSecond member named
    rw [← (label_changedFunction made).2, told_labelFunction]
    exact tells_parameterDifferences _ _ (history.compare old.1.result new.1.result .direct)

/-- A corpus with a function that takes the second of two structs and a pointer to the first one. -/
def takingBoth : Corpus :=
  { declaring (listTypes true false) 6 4 1 with
    functions := [{ taking "put" 4 with parameters := [{ type := 4 }, { type := 6 }] }] }

/-- The entry about a function that takes one parameter more, where the type of the other one leads to an
integer that is wider now. -/
theorem put_takes_both :
    let old := declaring (listTypes false false) 6 4 1
    (∃ entry ∈ (ofCorpora old takingBoth [] {}).changedFunctions, entry.key = "put") ∧
      ∀ entry ∈ (ofCorpora old takingBoth [] {}).changedFunctions, entry.key = "put" →
        TellsParameters (comparisonOf old takingBoth []) [{ type := 4 }] [{ type := 4 }, { type := 6 }]
          (told entry.parameters) := by
  intro old
  obtain ⟨listed, tells⟩ := @changedFunctions_iff_differ old takingBoth "put" (taking "put" 4, none)
    ({ taking "put" 4 with parameters := [{ type := 4 }, { type := 6 }] }, none) [] {}
    (by decide +kernel) (by decide +kernel)
  exact ⟨listed.mpr (Or.inl (by decide)), tells⟩

end Difference

end Abiscope
