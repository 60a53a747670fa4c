import Abiscope.Proofs.MirroredTypes
import Abiscope.Proofs.UnchangedDeclarations
import Mathlib.Data.List.Zip

/-!
# Comparisons the other way round

When two corpora are compared the other way round and nothing is suppressed, what was removed is added
and conversely, and what was on both sides still is, with old and new exchanged. Both comparisons meet
what is on both sides in the same order, that of the keys. What they remember meanwhile is not the same,
and neither are the findings, which name the members of the first side. But whether something is found
about a declaration does not depend on what is remembered, and where members and enumerators have names
of their own, not on the direction either. So the changed declarations go by the same keys.
-/

namespace Abiscope

/-! ## Ascending lists -/

/-- Two lists in strictly ascending order are equal if they have the same elements. -/
theorem eq_of_ascending {κ ι : Type} [Ord κ] [Std.TransOrd κ] {keyOf : ι → κ} {one other : List ι}
    (oneAscending : one.Pairwise fun left right => compare (keyOf left) (keyOf right) = .lt)
    (otherAscending : other.Pairwise fun left right => compare (keyOf left) (keyOf right) = .lt)
    (same : ∀ item, item ∈ one ↔ item ∈ other) : one = other := by
  have distinct {list : List ι}
      (ascending : list.Pairwise fun left right => compare (keyOf left) (keyOf right) = .lt) :
      list.Nodup := by
    refine ascending.imp fun {left right} before equal => ?_
    subst equal
    exact absurd (before.symm.trans Std.ReflOrd.compare_self) (by decide)
  have permuted : one.Perm other :=
    (List.perm_ext_iff_of_nodup (distinct oneAscending) (distinct otherAscending)).mpr same
  refine permuted.eq_of_pairwise ?_ oneAscending otherAscending
  intro left right _ _ before after
  rw [Std.OrientedOrd.eq_swap, after] at before
  contradiction

namespace TypeComparison

variable {comparison : TypeComparison} {α β κ : Type}

/-- What is found when going through items goes by the keys of those items that something is found
about. -/
theorem Decides.map_eachOf {condition : α → Prop} [DecidablePred condition]
    {make : α → Remembering (Option β)} {keyOf : β → κ} {itemKey : α → κ} {items : List α}
    (decides : ∀ item ∈ items, comparison.Decides (condition item) Option.isNone (make item))
    (keyed : ∀ item memory found, (make item memory).1 = some found → keyOf found = itemKey item)
    {memory : Memory} (history : comparison.IsHistory memory) :
    (TypeComparison.eachOf make items memory).1.map keyOf =
      (items.filter fun item => !decide (condition item)).map itemKey := by
  induction items generalizing memory with
  | nil => rfl
  | cons item rest inductionHypothesis =>
    obtain ⟨first, between⟩ := decides item List.mem_cons_self memory history
    have others := inductionHypothesis
      (fun later member => decides later (List.mem_cons_of_mem _ member)) between
    change ((make item memory).1.toList ++
      (TypeComparison.eachOf make rest (make item memory).2).1).map keyOf = _
    rw [List.map_append, others]
    cases made : (make item memory).1 with
    | none =>
      rw [made] at first
      have unchanged : condition item := first.mp rfl
      simp [unchanged]
    | some found =>
      rw [made] at first
      have changed : ¬condition item := fun unchanged => Bool.false_ne_true (first.mpr unchanged)
      simp [changed, keyed item memory found made]

end TypeComparison

/-- Symbols that do not differ do not differ the other way round. -/
theorem Symbol.changes_eq_nil_comm {sizeMatters : Bool} {old new : Option Symbol} :
    changes sizeMatters old new = [] ↔ changes sizeMatters new old = [] := by
  cases old with
  | none => cases new <;> rfl
  | some old =>
    cases new with
    | none => rfl
    | some new =>
      simp only [changes, List.append_eq_nil_iff, ite_eq_left_iff, beq_iff_eq, reduceCtorEq, imp_false,
        not_not, ite_eq_right_iff, Bool.and_eq_true, bne_iff_ne, ne_eq]
      grind

namespace Difference

open Suppression (Changes FunctionFacts VariableFacts)
open TypeComparison (eachOf)

/-! ## Maps -/

variable {δ ε : Type}

/-- What is in both of two maps comes in ascending order of the keys. -/
theorem ascending_inBoth (first second : Std.TreeMap String δ) :
    (inBoth first second).Pairwise fun left right => compare left.1 right.1 = .lt := by
  refine List.Pairwise.filterMap _ ?_ first.ordered_keys_toList
  intro left right before one ofLeft other ofRight
  obtain ⟨_, _, rfl⟩ := Option.map_eq_some_iff.mp ofLeft
  obtain ⟨_, _, rfl⟩ := Option.map_eq_some_iff.mp ofRight
  exact before

/-- What two maps have under one key, the other way round. -/
def turned (item : String × δ × δ) : String × δ × δ := (item.1, item.2.swap)

/-- What is in both of two maps is the same the other way round, in the same order. -/
theorem inBoth_comm (first second : Std.TreeMap String δ) :
    inBoth second first = (inBoth first second).map turned := by
  refine eq_of_ascending (ascending_inBoth second first) ?_ fun item => ?_
  · rw [List.pairwise_map]
    exact ascending_inBoth first second
  · rw [List.mem_map, mem_inBoth]
    constructor
    · rintro ⟨held, found⟩
      exact ⟨turned item, (mem_inBoth _ _ _).mpr ⟨found, held⟩, rfl⟩
    · rintro ⟨other, member, rfl⟩
      exact ((mem_inBoth _ _ _).mp member).symm

/-- What is found on both sides goes by the same keys the other way round, if nothing is found about the
same items.

The two runs go through the items in the same order, each with what it remembers itself. -/
theorem map_eachOf_inBoth {there back : TypeComparison} {first second : Std.TreeMap String δ}
    {make makeBack : String × δ × δ → TypeComparison.Remembering (Option ε)} {keyOf : ε → String}
    {condition conditionBack : String × δ × δ → Prop}
    (decides : ∀ item, there.Decides (condition item) Option.isNone (make item))
    (decidesBack : ∀ item, back.Decides (conditionBack item) Option.isNone (makeBack item))
    (keyed : ∀ item memory found, (make item memory).1 = some found → keyOf found = item.1)
    (keyedBack : ∀ item memory found, (makeBack item memory).1 = some found → keyOf found = item.1)
    (alike : ∀ item, conditionBack (turned item) ↔ condition item)
    {memory memoryBack : TypeComparison.Memory} (history : there.IsHistory memory)
    (historyBack : back.IsHistory memoryBack) :
    (eachOf makeBack (inBoth second first) memoryBack).1.map keyOf =
      (eachOf make (inBoth first second) memory).1.map keyOf := by
  classical
  rw [TypeComparison.Decides.map_eachOf (fun item _ => decides item) keyed history,
    TypeComparison.Decides.map_eachOf (fun item _ => decidesBack item) keyedBack historyBack,
    inBoth_comm, List.filter_map, List.map_map]
  refine congrArg (List.map Prod.fst) (List.filter_congr fun item _ => ?_)
  rw [Function.comp_apply, decide_eq_decide.mpr (alike item)]

/-! ## Declarations -/

/-- The types that are compared for two functions are the same pairs, turned round. -/
theorem functionPairs_comm (old new : FunctionDeclaration) :
    functionPairs new old = (functionPairs old new).map Prod.swap := by
  rw [functionPairs, functionPairs, ← List.zip_swap old.parameters, List.map_map, List.map_cons,
    List.map_map]
  rfl

variable {there back : TypeComparison} {first second : Side}

/-- Whether a function has changed does not depend on the direction, if names are distinct. -/
theorem functionUnchanged_comm (mirrors : there.Mirrors back)
    (firstDistinct : there.first.NamesDistinct) (secondDistinct : there.second.NamesDistinct)
    (old new : Bound FunctionDeclaration) :
    FunctionUnchanged back second first new old ↔ FunctionUnchanged there first second old new := by
  have types : (∀ pair ∈ functionPairs new.1 old.1, back.Unchanged pair) ↔
      ∀ pair ∈ functionPairs old.1 new.1, there.Unchanged pair := by
    rw [functionPairs_comm, List.forall_mem_map]
    exact forall₂_congr fun pair _ =>
      TypeComparison.unchanged_swap_iff mirrors firstDistinct secondDistinct
  constructor
  · exact fun same => ⟨types.mp same.types, same.count.symm, Symbol.changes_eq_nil_comm.mp same.symbol⟩
  · exact fun same => ⟨types.mpr same.types, same.count.symm, Symbol.changes_eq_nil_comm.mp same.symbol⟩

/-- Whether a variable has changed does not depend on the direction, if names are distinct. -/
theorem variableUnchanged_comm (mirrors : there.Mirrors back)
    (firstDistinct : there.first.NamesDistinct) (secondDistinct : there.second.NamesDistinct)
    (old new : Bound VariableDeclaration) :
    VariableUnchanged back second first new old ↔ VariableUnchanged there first second old new := by
  have type : back.Unchanged (Prod.swap (old.1.type, new.1.type)) ↔
      there.Unchanged (old.1.type, new.1.type) :=
    TypeComparison.unchanged_swap_iff mirrors firstDistinct secondDistinct
  constructor
  · exact fun same => ⟨type.mp same.type, Symbol.changes_eq_nil_comm.mp same.symbol⟩
  · exact fun same => ⟨type.mpr same.type, Symbol.changes_eq_nil_comm.mp same.symbol⟩

/-- The changed functions and the changed variables of two corpora go by the same keys the other way
round, if names are distinct. -/
theorem map_key_changed_comm {first second : Corpus} (suppressions others : List Suppression)
    (options : Options) (firstDistinct : first.types.NamesDistinct)
    (secondDistinct : second.types.NamesDistinct) :
    (ofCorpora second first others options).changedFunctions.map FunctionDifference.key =
        (ofCorpora first second suppressions options).changedFunctions.map FunctionDifference.key ∧
      (ofCorpora second first others options).changedVariables.map VariableDifference.key =
        (ofCorpora first second suppressions options).changedVariables.map VariableDifference.key := by
  have mirrors : (comparisonOf first second suppressions).Mirrors (comparisonOf second first others) :=
    ⟨rfl, rfl⟩
  rw [changedFunctions_ofCorpora, changedFunctions_ofCorpora, changedVariables_ofCorpora,
    changedVariables_ofCorpora]
  constructor
  · exact map_eachOf_inBoth (decides_changedFunction _ _ _) (decides_changedFunction _ _ _)
      (fun _ _ _ => key_changedFunction) (fun _ _ _ => key_changedFunction)
      (fun item => functionUnchanged_comm mirrors firstDistinct secondDistinct item.2.1 item.2.2)
      (TypeComparison.isHistory_empty _) (TypeComparison.isHistory_empty _)
  · exact map_eachOf_inBoth (decides_changedVariable _ _ _) (decides_changedVariable _ _ _)
      (fun _ _ _ => key_changedVariable) (fun _ _ _ => key_changedVariable)
      (fun item => variableUnchanged_comm mirrors firstDistinct secondDistinct item.2.1 item.2.2)
      (isHistory_functions _ _ _ _ _ (TypeComparison.isHistory_empty _))
      (isHistory_functions _ _ _ _ _ (TypeComparison.isHistory_empty _))

/-! ## The whole -/

/-- Two values that differ are the same values the other way round. -/
theorem ifDiffer_comm {α : Type} [BEq α] [LawfulBEq α] (old new : α) :
    ifDiffer new old = (ifDiffer old new).map Prod.swap := by
  rw [ifDiffer, ifDiffer, Bool.beq_comm]
  cases old == new <;> rfl

/-- A difference and that of the same corpora the other way round: what is on one side only is exchanged,
values of the binaries that differ are turned round, and the changed declarations go by the same keys in
the same order. -/
structure Mirrors (there back : Difference) : Prop where
  soname : back.soname = there.soname.map Prod.swap
  architecture : back.architecture = there.architecture.map Prod.swap
  removedNeeded : back.removedNeeded = there.addedNeeded
  addedNeeded : back.addedNeeded = there.removedNeeded
  removedFunctions : back.removedFunctions = there.addedFunctions
  addedFunctions : back.addedFunctions = there.removedFunctions
  changedFunctions :
    back.changedFunctions.map FunctionDifference.key =
      there.changedFunctions.map FunctionDifference.key
  removedVariables : back.removedVariables = there.addedVariables
  addedVariables : back.addedVariables = there.removedVariables
  changedVariables :
    back.changedVariables.map VariableDifference.key =
      there.changedVariables.map VariableDifference.key
  removedFunctionSymbols : back.removedFunctionSymbols = there.addedFunctionSymbols
  addedFunctionSymbols : back.addedFunctionSymbols = there.removedFunctionSymbols
  removedVariableSymbols : back.removedVariableSymbols = there.addedVariableSymbols
  addedVariableSymbols : back.addedVariableSymbols = there.removedVariableSymbols

/-- Without suppressions no change of a function has a label. -/
theorem functionLabel?_nil (first : Corpus) (facts : FunctionFacts) (change : Changes) :
    (contextOf first []).functionLabel? facts change = none := rfl

/-- Without suppressions no change of a variable has a label. -/
theorem variableLabel?_nil (first : Corpus) (facts : VariableFacts) (change : Changes) :
    (contextOf first []).variableLabel? facts change = none := rfl

/-- Without suppressions a function is listed as removed in the same way as it is listed as added. -/
theorem functionEntity_nil (first second : Corpus) (change changeBack : Changes) (side : Side) :
    functionEntity (contextOf second []) changeBack side =
      functionEntity (contextOf first []) change side := by
  funext key bound
  rw [functionEntity, functionEntity, functionLabel?_nil, functionLabel?_nil]

/-- Without suppressions a variable is listed as removed in the same way as it is listed as added. -/
theorem variableEntity_nil (first second : Corpus) (change changeBack : Changes) (side : Side) :
    variableEntity (contextOf second []) changeBack side =
      variableEntity (contextOf first []) change side := by
  funext key bound
  rw [variableEntity, variableEntity, variableLabel?_nil, variableLabel?_nil]

/-- Without suppressions symbols are listed as removed in the same way as they are listed as added. -/
theorem unreferenced_nil (first second : Corpus) (change changeBack : Changes) (here there : Side) :
    unreferenced (contextOf second []) changeBack here there =
      unreferenced (contextOf first []) change here there := by
  have label (place : Nat) (symbol : Symbol) :
      symbolLabel? (contextOf second []) changeBack here place symbol =
        symbolLabel? (contextOf first []) change here place symbol := by
    simp only [symbolLabel?, functionLabel?_nil, variableLabel?_nil]
  simp only [unreferenced, label]

/-- Comparing two corpora the other way round mirrors their difference, if nothing is suppressed and no
type has two members or enumerators of one name.

Proof: entries of one side only are made from that side alone, and without suppressions they have no
labels that could tell the direction. What is on both sides is met in the same order, and something is
found about it both ways round or neither way. -/
theorem ofCorpora_mirrors (first second : Corpus) (options : Options)
    (firstDistinct : first.types.NamesDistinct) (secondDistinct : second.types.NamesDistinct) :
    (ofCorpora first second [] options).Mirrors (ofCorpora second first [] options) := by
  obtain ⟨functions, globals⟩ :=
    map_key_changed_comm [] [] options firstDistinct secondDistinct
  have symbols (change changeBack : Changes) (here there : Side) :
      (if options.showUnreferenced then
        unreferenced (contextOf second []) changeBack here there else []) =
        if options.showUnreferenced then
          unreferenced (contextOf first []) change here there else [] := by
    rw [unreferenced_nil first second change changeBack]
  exact {
    soname := ifDiffer_comm first.soname second.soname
    architecture := by
      simp only [ofCorpora]
      cases first.architecture with
      | none => cases second.architecture <;> rfl
      | some old =>
        cases second.architecture with
        | none => rfl
        | some new => exact ifDiffer_comm old new
    removedNeeded := rfl
    addedNeeded := rfl
    removedFunctions := congrArg (onlyIn · _ _) (functionEntity_nil _ _ _ _ _)
    addedFunctions := congrArg (onlyIn · _ _) (functionEntity_nil _ _ _ _ _)
    changedFunctions := functions
    removedVariables := congrArg (onlyIn · _ _) (variableEntity_nil _ _ _ _ _)
    addedVariables := congrArg (onlyIn · _ _) (variableEntity_nil _ _ _ _ _)
    changedVariables := globals
    removedFunctionSymbols := congrArg (List.filter _) (symbols _ _ _ _)
    addedFunctionSymbols := congrArg (List.filter _) (symbols _ _ _ _)
    removedVariableSymbols := congrArg (List.filter _) (symbols _ _ _ _)
    addedVariableSymbols := congrArg (List.filter _) (symbols _ _ _ _) }

/-- A library of linked lists. It has a function that takes a node, which refers to itself, and one that
takes nothing. -/
def linking (soname : String) (offset : UInt64) (function : String) : Corpus where
  path := "liblinks.so"
  soname := soname
  types := {
    nodes := #[.void, .builtin "int" 32, .pointer 3, .record {
      kind := .structRecord
      name := "node"
      size := 128
      members := [⟨"next", 2, 0⟩, ⟨"count", 1, offset⟩] }] }
  functions := [
    { name := "push", result := 0, parameters := [{ type := 2 }] },
    { name := function, result := 0 }]

/-- The rule at two releases of the library: the node has changed, and one function is there in the first
release only, another one in the second. -/
theorem ofCorpora_mirrors_linking :
    let older := linking "liblinks.so.1" 64 "drop"
    let newer := linking "liblinks.so.2" 96 "pop"
    let there := ofCorpora older newer [] {}
    (older.types.NamesDistinct ∧ newer.types.NamesDistinct) ∧
      (there.changedFunctions.map FunctionDifference.key = ["push"] ∧
        there.removedFunctions.map EntityChange.key = ["drop"]) ∧
      there.Mirrors (ofCorpora newer older [] {}) :=
  ⟨⟨by decide, by decide⟩, ⟨by decide +kernel, by decide +kernel⟩,
    ofCorpora_mirrors _ _ {} (by decide) (by decide)⟩

end Difference

end Abiscope
