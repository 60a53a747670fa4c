import Abiscope.Difference.Statistics
import Abiscope.Proofs.ReachableChanges
import Abiscope.Proofs.RelabelledRuns
import Abiscope.Proofs.RelatedDeclarations
import Abiscope.Suppression

/-!
# Fewer rules

Suppressions hide what they apply to and do nothing else. So with fewer of them, in whatever order, a
comparison has the same entries, and whatever is left to report with more of them is left with fewer.
The first rule that applies gives the label, but for what is hidden it only matters whether there is
one.
-/

namespace Abiscope

/-- A second label for what has a first one. -/
def HiddenToo (few many : Option String) : Prop := few.isSome = true → many.isSome = true

/-- What is left to report of related differences with more labels is left with fewer. -/
theorem Findings.Related.anyReportable {left right : Findings}
    (related : left.Related HiddenToo right) (reportable : right.anyReportable = true) :
    left.anyReportable = true := by
  induction related with
  | empty => exact reportable
  | @cons role leftFinding rightFinding _ _ _ _ finding _ _ ofInside ofBeside =>
    rw [Findings.anyReportable, Bool.or_eq_true, Bool.and_eq_true, Bool.or_eq_true] at reportable ⊢
    rcases reportable with ⟨shown, found⟩ | beside
    · refine Or.inl ⟨?_, ?_⟩
      · rw [Bool.not_eq_true', Finding.isSuppressed, Bool.eq_false_iff] at shown ⊢
        exact fun hidden => shown (finding.labels hidden)
      · have changes := congrArg Finding.changes finding.same
        change leftFinding.changes = rightFinding.changes at changes
        rw [changes]
        exact found.imp_right ofInside
    · exact Or.inr (ofBeside beside)

/-- A difference that is left to report with more labels is left with fewer. -/
theorem TypeDifference.Related.isReportable {left right : TypeDifference}
    (related : left.Related HiddenToo right) (reportable : right.isReportable = true) :
    left.isReportable = true := by
  have whole : (Findings.cons "" left.finding left.inside .empty).Related HiddenToo
      (.cons "" right.finding right.inside .empty) := .cons "" related.finding related.inside .empty
  have shown := whole.anyReportable (by
    rw [Findings.anyReportable, Findings.anyReportable, Bool.or_false]
    exact reportable)
  rw [Findings.anyReportable, Findings.anyReportable, Bool.or_false] at shown
  exact shown

namespace Suppression.Context

variable {few many : Context}

/-- Some rule applies in the second list if one applies in the first. -/
theorem hiddenToo_find? {α : Type} {fewRules manyRules : List α} {applies : α → Bool}
    {label : α → String} (fewer : ∀ rule ∈ fewRules, rule ∈ manyRules) :
    HiddenToo ((fewRules.find? applies).map label) ((manyRules.find? applies).map label) := by
  intro hidden
  rw [Option.isSome_map, List.find?_isSome] at hidden ⊢
  obtain ⟨rule, member, applied⟩ := hidden
  exact ⟨rule, fewer rule member, applied⟩

/-- A context whose rules are all among those of another one that is judged for the same binary. -/
structure Within (few many : Context) : Prop where
  binary : few.binary = many.binary
  rules : ∀ rule ∈ few.suppressions, rule ∈ many.suppressions

/-- The rules about one kind of thing are among those of the larger context, too. -/
theorem Within.filterMap {α : Type} (within : few.Within many) (kind : Suppression → Option α) :
    ∀ rule ∈ few.suppressions.filterMap kind, rule ∈ many.suppressions.filterMap kind := by
  intro rule member
  obtain ⟨suppression, listed, isKind⟩ := List.mem_filterMap.mp member
  exact List.mem_filterMap.mpr ⟨suppression, within.rules suppression listed, isKind⟩

/-- A function that has a label by fewer rules has one by more. -/
theorem Within.functionLabel? (within : few.Within many) (facts : FunctionFacts) (change : Changes) :
    HiddenToo (few.functionLabel? facts change) (many.functionLabel? facts change) := by
  rw [Context.functionLabel?, Context.functionLabel?, within.binary]
  exact hiddenToo_find? (within.filterMap functionRule?)

/-- A variable that has a label by fewer rules has one by more. -/
theorem Within.variableLabel? (within : few.Within many) (facts : VariableFacts) (change : Changes) :
    HiddenToo (few.variableLabel? facts change) (many.variableLabel? facts change) := by
  rw [Context.variableLabel?, Context.variableLabel?, within.binary]
  exact hiddenToo_find? (within.filterMap variableRule?)

/-- A type that has a label by fewer rules has one by more. -/
theorem Within.typeLabel? (within : few.Within many) (facts : TypeFacts) :
    HiddenToo (few.typeLabel? facts) (many.typeLabel? facts) := by
  rw [Context.typeLabel?, Context.typeLabel?, within.binary]
  exact hiddenToo_find? (within.filterMap typeRule?)

end Suppression.Context

/-! ## Entries -/

/-- Two entries with the same content, of which the first is left to report if the second is. -/
structure EntryKept {α β : Type} (content : α → β) (isReportable : α → Bool) (few many : α) : Prop where
  same : content few = content many
  reportable : isReportable many = true → isReportable few = true

/-- If the second list has an entry to report, the first has one. -/
theorem any_of_kept {α β : Type} {content : α → β} {isReportable : α → Bool} {few many : List α}
    (kept : List.Forall₂ (EntryKept content isReportable) few many)
    (reported : many.any isReportable = true) : few.any isReportable = true :=
  any_of_forall₂ kept (fun _ _ => EntryKept.reportable) reported

namespace Difference

open Suppression (Changes Context)
open TypeComparison (MemoriesRelated Relates eachOf)

/-- An entry about one side only without its label. -/
def bareEntity (change : EntityChange) : EntityChange := { change with suppressedBy := none }

abbrev EntitiesKept : List EntityChange → List EntityChange → Prop :=
  List.Forall₂ (EntryKept bareEntity fun change => !change.isSuppressed)

abbrev SymbolsKept : List SymbolChange → List SymbolChange → Prop :=
  List.Forall₂ (EntryKept SymbolChange.symbol fun change => !change.isSuppressed)

/-- The first of two differences has the entries of the second, each in its place, and each is left to
report if it is in the second. -/
structure Keeps (lax strict : Difference) : Prop where
  soname : lax.soname = strict.soname
  architecture : lax.architecture = strict.architecture
  removedNeeded : lax.removedNeeded = strict.removedNeeded
  addedNeeded : lax.addedNeeded = strict.addedNeeded
  removedFunctions : EntitiesKept lax.removedFunctions strict.removedFunctions
  addedFunctions : EntitiesKept lax.addedFunctions strict.addedFunctions
  changedFunctions : List.Forall₂
    (EntryKept FunctionDifference.key FunctionDifference.isReportable)
    lax.changedFunctions strict.changedFunctions
  removedVariables : EntitiesKept lax.removedVariables strict.removedVariables
  addedVariables : EntitiesKept lax.addedVariables strict.addedVariables
  changedVariables : List.Forall₂
    (EntryKept VariableDifference.key VariableDifference.isReportable)
    lax.changedVariables strict.changedVariables
  removedFunctionSymbols : SymbolsKept lax.removedFunctionSymbols strict.removedFunctionSymbols
  addedFunctionSymbols : SymbolsKept lax.addedFunctionSymbols strict.addedFunctionSymbols
  removedVariableSymbols : SymbolsKept lax.removedVariableSymbols strict.removedVariableSymbols
  addedVariableSymbols : SymbolsKept lax.addedVariableSymbols strict.addedVariableSymbols

variable {few many : Context}

/-- Entries of one side only, made from the same declarations, are kept. -/
theorem onlyIn_kept {δ : Type} (fewEntity manyEntity : String → δ → EntityChange)
    (bare : ∀ key bound, bareEntity (fewEntity key bound) = bareEntity (manyEntity key bound))
    (hidden : ∀ key bound,
      HiddenToo (fewEntity key bound).suppressedBy (manyEntity key bound).suppressedBy)
    (here there : Std.TreeMap String δ) :
    EntitiesKept (onlyIn fewEntity here there) (onlyIn manyEntity here there) := by
  refine List.rel_filterMap (R := Eq) ?_ (List.forall₂_same.mpr fun _ _ => rfl)
  rintro ⟨key, bound⟩ _ rfl
  dsimp only
  cases there.contains key with
  | true => exact .none
  | false =>
    refine .some ⟨bare key bound, fun shown => ?_⟩
    rw [Bool.not_eq_true', EntityChange.isSuppressed, Bool.eq_false_iff] at shown ⊢
    exact fun suppressed => shown (hidden key bound suppressed)

/-- Functions on one side only are kept. -/
theorem functionEntities_kept (within : few.Within many) (change : Changes) (side : Side)
    (here there : Std.TreeMap String (Bound FunctionDeclaration)) :
    EntitiesKept (onlyIn (functionEntity few change side) here there)
      (onlyIn (functionEntity many change side) here there) := by
  refine onlyIn_kept (functionEntity few change side) (functionEntity many change side) ?_ ?_ here there
  · intro key bound
    simp only [bareEntity, functionEntity]
  · exact fun _ bound => within.functionLabel? (side.functionFacts bound) change

/-- Variables on one side only are kept. -/
theorem variableEntities_kept (within : few.Within many) (change : Changes) (side : Side)
    (here there : Std.TreeMap String (Bound VariableDeclaration)) :
    EntitiesKept (onlyIn (variableEntity few change side) here there)
      (onlyIn (variableEntity many change side) here there) := by
  refine onlyIn_kept (variableEntity few change side) (variableEntity many change side) ?_ ?_ here there
  · intro key bound
    simp only [bareEntity, variableEntity]
  · exact fun _ bound => within.variableLabel? (side.variableFacts bound) change

/-- Symbols of one side only are kept. -/
theorem unreferenced_kept (within : few.Within many) (change : Changes) (here there : Side) :
    SymbolsKept (unreferenced few change here there) (unreferenced many change here there) := by
  refine List.rel_filterMap (R := Eq) ?_ (List.forall₂_same.mpr fun _ _ => rfl)
  rintro ⟨idString, id⟩ _ rfl
  dsimp only
  cases here.referenced.contains idString || there.interface.contains idString with
  | true => exact .none
  | false =>
    cases here.corpus.table.symbol? id with
    | none => exact .none
    | some symbol =>
      refine .some ⟨rfl, fun shown => ?_⟩
      have hidden : HiddenToo (symbolLabel? few change here id symbol)
          (symbolLabel? many change here id symbol) := by
        rw [symbolLabel?, symbolLabel?]
        split
        · exact within.functionLabel? _ _
        · exact within.variableLabel? _ _
      rw [Bool.not_eq_true', SymbolChange.isSuppressed, Bool.eq_false_iff] at shown ⊢
      exact fun suppressed => shown (hidden suppressed)

/-- Choosing symbols by what they name keeps them. -/
theorem SymbolsKept.filter {few many : List SymbolChange} (kept : SymbolsKept few many)
    (chosen : Symbol → Bool) :
    SymbolsKept (few.filter fun change => chosen change.symbol)
      (many.filter fun change => chosen change.symbol) := by
  refine List.rel_filter (fun one other same => ?_) kept
  change chosen one.symbol = true ↔ chosen other.symbol = true
  rw [same.same]

variable {first second : Corpus} {suppressions others : List Suppression}

/-- The contexts of two lists of suppressions for one corpus. -/
theorem within_contextOf (fewer : ∀ rule ∈ suppressions, rule ∈ others) :
    (contextOf first suppressions).Within (contextOf first others) :=
  ⟨rfl, fewer⟩

/-- What is compared with fewer rules is related to what is compared with more. -/
theorem relates_compare_of_within
    (within : (contextOf first suppressions).Within (contextOf first others)) (old new : Nat)
    (reach : Reach) :
    Relates (MemoriesRelated HiddenToo) (Option.Rel (TypeDifference.Related HiddenToo))
      ((comparisonOf first second suppressions).compare old new reach)
      ((comparisonOf first second others).compare old new reach) :=
  (comparisonOf first second suppressions).relates_relabelled (contextOf first others).typeLabel?
    within.typeLabel? old new reach

/-- The functions on both sides in two comparisons, and what the comparisons remember of them. -/
theorem relates_functions (second : Corpus)
    (within : (contextOf first suppressions).Within (contextOf first others))
    (items : List (String × Bound FunctionDeclaration × Bound FunctionDeclaration)) :
    Relates (MemoriesRelated HiddenToo)
      (List.Forall₂ (FunctionsRelated (TypeDifference.Related HiddenToo)
        (contextOf first suppressions) (contextOf first others)))
      (eachOf (functionEntry first second suppressions) items)
      (eachOf (functionEntry first second others) items) :=
  .eachOf fun item _ => relates_changedFunction _ _ (comparisonOf first second suppressions)
    (comparisonOf first second others) _ _ rfl rfl item fun pair _ =>
      relates_compare_of_within within pair.1 pair.2 .direct

/-- The variables on both sides in two comparisons. -/
theorem relates_globals (second : Corpus)
    (within : (contextOf first suppressions).Within (contextOf first others))
    (items : List (String × Bound VariableDeclaration × Bound VariableDeclaration)) :
    Relates (MemoriesRelated HiddenToo)
      (List.Forall₂ (VariablesRelated (TypeDifference.Related HiddenToo)
        (contextOf first suppressions) (contextOf first others)))
      (eachOf (globalEntry first second suppressions) items)
      (eachOf (globalEntry first second others) items) :=
  .eachOf fun item _ => relates_changedVariable _ _ _ _ _ _ item
    (relates_compare_of_within within _ _ .direct)

/-- The changed functions and variables of two comparisons are related entry by entry. -/
theorem changed_related (second : Corpus) (options : Options)
    (within : (contextOf first suppressions).Within (contextOf first others)) :
    List.Forall₂ (FunctionsRelated (TypeDifference.Related HiddenToo) (contextOf first suppressions)
        (contextOf first others))
      (ofCorpora first second suppressions options).changedFunctions
      (ofCorpora first second others options).changedFunctions ∧
    List.Forall₂ (VariablesRelated (TypeDifference.Related HiddenToo) (contextOf first suppressions)
        (contextOf first others))
      (ofCorpora first second suppressions options).changedVariables
      (ofCorpora first second others options).changedVariables := by
  have start : MemoriesRelated HiddenToo ∅ ∅ := by
    intro key
    rw [TypeComparison.get?_empty]
    exact .none
  obtain ⟨functions, between⟩ := relates_functions second within
    (inBoth (Side.ofCorpus first).functions (Side.ofCorpus second).functions) ∅ ∅ start
  obtain ⟨globals, _⟩ := relates_globals second within
    (inBoth (Side.ofCorpus first).globals (Side.ofCorpus second).globals) _ _ between
  rw [changedFunctions_ofCorpora, changedFunctions_ofCorpora, changedVariables_ofCorpora,
    changedVariables_ofCorpora]
  exact ⟨functions, globals⟩

/-- With fewer rules a comparison has the same entries and keeps what is left to report with more. -/
theorem ofCorpora_keeps (second : Corpus) (options : Options)
    (within : (contextOf first suppressions).Within (contextOf first others)) :
    (ofCorpora first second suppressions options).Keeps
      (ofCorpora first second others options) := by
  obtain ⟨functions, globals⟩ := changed_related second options within
  have symbols (change : Changes) (here there : Side) :
      SymbolsKept
        (if options.showUnreferenced then
          unreferenced (contextOf first suppressions) change here there else [])
        (if options.showUnreferenced then
          unreferenced (contextOf first others) change here there else []) := by
    cases options.showUnreferenced with
    | true => exact unreferenced_kept within change here there
    | false => exact .nil
  exact {
    soname := rfl
    architecture := rfl
    removedNeeded := rfl
    addedNeeded := rfl
    removedFunctions := functionEntities_kept within _ _ _ _
    addedFunctions := functionEntities_kept within _ _ _ _
    changedFunctions := functions.imp fun _ _ related => ⟨related.changed.1,
      related.isReportable (fun _ _ => TypeDifference.Related.isReportable) within.binary
        (within.filterMap _)⟩
    removedVariables := variableEntities_kept within _ _ _ _
    addedVariables := variableEntities_kept within _ _ _ _
    changedVariables := globals.imp fun _ _ related => ⟨related.changed.1,
      related.isReportable (fun _ _ => TypeDifference.Related.isReportable) within.binary
        (within.filterMap _)⟩
    removedFunctionSymbols := (symbols _ _ _).filter Symbol.isFunction
    addedFunctionSymbols := (symbols _ _ _).filter Symbol.isFunction
    removedVariableSymbols := (symbols _ _ _).filter fun symbol => !symbol.isFunction
    addedVariableSymbols := (symbols _ _ _).filter fun symbol => !symbol.isFunction }

/-! ## Counts and status -/

/-- What is kept is counted. -/
theorem count_le {α β : Type} {content : α → β} {isSuppressed : α → Bool} {left right : List α}
    (kept : List.Forall₂ (EntryKept content fun entry => !isSuppressed entry) left right) :
    (ChangeCount.of isSuppressed right).reportable ≤ (ChangeCount.of isSuppressed left).reportable := by
  rw [ChangeCount.reportable_of, ChangeCount.reportable_of]
  exact countP_le_of_forall₂ kept fun _ _ => EntryKept.reportable

/-- Entries that stand for changes are counted if they are left to report. -/
theorem filteredCount_le {ε : Type} {isReportable hasChanges isFilteredOut : ε → Bool}
    (filtered : ∀ entry, isFilteredOut entry = (hasChanges entry && !isReportable entry))
    {related : ε → ε → Prop}
    (changed : ∀ one other, related one other → hasChanges one = true ∧ hasChanges other = true)
    (carries : ∀ one other, related one other → isReportable other = true → isReportable one = true)
    {left right : List ε} (entries : List.Forall₂ related left right) :
    (ChangeCount.of isFilteredOut right).reportable ≤
      (ChangeCount.of isFilteredOut left).reportable := by
  rw [ChangeCount.reportable_of, ChangeCount.reportable_of]
  refine countP_le_of_forall₂ entries fun one other pair shown => ?_
  obtain ⟨oneChanged, otherChanged⟩ := changed one other pair
  rw [filtered, otherChanged, Bool.true_and, Bool.not_not] at shown
  rw [filtered, oneChanged, Bool.true_and, Bool.not_not]
  exact carries one other pair shown

/-- With fewer rules at least as many entries of every category are left to report. -/
theorem counts_le (second : Corpus) (options : Options)
    (within : (contextOf first suppressions).Within (contextOf first others)) :
    List.Forall₂ (fun strict lax : ChangeCount => strict.reportable ≤ lax.reportable)
      (ofCorpora first second others options).statistics.counts
      (ofCorpora first second suppressions options).statistics.counts := by
  obtain ⟨functions, globals⟩ := changed_related second options within
  have keeps := ofCorpora_keeps second options within
  have functionCounts := filteredCount_le (fun _ => rfl) (fun _ _ entry => entry.changed.2)
    (fun _ _ entry => entry.isReportable (fun _ _ => TypeDifference.Related.isReportable)
      within.binary (within.filterMap _)) functions
  have globalCounts := filteredCount_le (fun _ => rfl) (fun _ _ entry => entry.changed.2)
    (fun _ _ entry => entry.isReportable (fun _ _ => TypeDifference.Related.isReportable)
      within.binary (within.filterMap _)) globals
  exact .cons (count_le keeps.removedFunctions) <| .cons (count_le keeps.addedFunctions) <|
    .cons functionCounts <| .cons (count_le keeps.removedVariables) <|
    .cons (count_le keeps.addedVariables) <| .cons globalCounts <|
    .cons (count_le keeps.removedFunctionSymbols) <| .cons (count_le keeps.addedFunctionSymbols) <|
    .cons (count_le keeps.removedVariableSymbols) <| .cons (count_le keeps.addedVariableSymbols) .nil

/-- What is incompatible stays incompatible. -/
theorem Keeps.isIncompatible {lax strict : Difference} (keeps : lax.Keeps strict)
    (incompatible : strict.isIncompatible = true) : lax.isIncompatible = true := by
  simp only [Difference.isIncompatible, Bool.or_eq_true] at incompatible ⊢
  rcases incompatible with ((function | variable_) | functionSymbol) | variableSymbol
  · exact Or.inl (Or.inl (Or.inl (any_of_kept keeps.removedFunctions function)))
  · exact Or.inl (Or.inl (Or.inr (any_of_kept keeps.removedVariables variable_)))
  · exact Or.inl (Or.inr (any_of_kept keeps.removedFunctionSymbols functionSymbol))
  · exact Or.inr (any_of_kept keeps.removedVariableSymbols variableSymbol)

/-- What is left to report stays left to report. -/
theorem Keeps.isReportable {lax strict : Difference} (keeps : lax.Keeps strict)
    (reportable : strict.isReportable = true) : lax.isReportable = true := by
  have binaries : lax.hasBinaryChanges = strict.hasBinaryChanges := by
    rw [hasBinaryChanges, hasBinaryChanges, keeps.soname, keeps.architecture, keeps.removedNeeded,
      keeps.addedNeeded]
  simp only [Difference.isReportable, Bool.or_eq_true] at reportable ⊢
  rw [binaries]
  exact Or.imp (Or.imp (Or.imp (Or.imp (Or.imp (Or.imp (Or.imp id keeps.isIncompatible)
    (any_of_kept keeps.addedFunctions)) (any_of_kept keeps.addedVariables))
    (any_of_kept keeps.addedFunctionSymbols)) (any_of_kept keeps.addedVariableSymbols))
    (any_of_kept keeps.changedFunctions)) (any_of_kept keeps.changedVariables) reportable

/-- Every flag of the stricter status is set in the laxer one. -/
theorem Keeps.status {lax strict : Difference} (keeps : lax.Keeps strict) :
    lax.status.join strict.status = lax.status := by
  have absorbed {one other : Bool} (implied : other = true → one = true) : (one || other) = one := by
    cases other with
    | false => exact Bool.or_false one
    | true => rw [implied rfl, Bool.or_true]
  simp only [Status.join, Difference.status, Bool.or_self, absorbed keeps.isReportable,
    absorbed keeps.isIncompatible]

/-- Counts that are at most each other's leave the same number of entries to report. -/
theorem map_reportable_eq {left right : List ChangeCount}
    (atMost : List.Forall₂ (fun one other : ChangeCount => one.reportable ≤ other.reportable)
      left right)
    (atLeast : List.Forall₂ (fun one other : ChangeCount => one.reportable ≤ other.reportable)
      right left) : left.map ChangeCount.reportable = right.map ChangeCount.reportable := by
  induction atMost with
  | nil => rfl
  | cons atMost _ inductionHypothesis =>
    cases atLeast with
    | cons atLeast rest =>
      rw [List.map_cons, List.map_cons, Nat.le_antisymm atMost atLeast, inductionHypothesis rest]

/-- A list of suppressions all of which are in another list leaves at least as much to report, entry by
entry, category by category and flag by flag. The order of suppressions is immaterial: a rearranged list
leaves as much to report and gives the same status.

Proof: whether a rule applies depends neither on other rules nor on what they labelled. A rearranged
list is contained in the original one and the other way round. -/
theorem reports_of_fewer_suppressions (first second : Corpus) (options : Options)
    (few many : List Suppression) :
    ((∀ suppression ∈ few, suppression ∈ many) →
      let lax := ofCorpora first second few options
      let strict := ofCorpora first second many options
      lax.Keeps strict ∧
        List.Forall₂ (fun strict lax : ChangeCount => strict.reportable ≤ lax.reportable)
          strict.statistics.counts lax.statistics.counts ∧
        lax.status.join strict.status = lax.status) ∧
    (few.Perm many →
      let one := ofCorpora first second few options
      let other := ofCorpora first second many options
      one.status = other.status ∧
        one.statistics.counts.map ChangeCount.reportable =
          other.statistics.counts.map ChangeCount.reportable) := by
  constructor
  · intro fewer lax strict
    have keeps : lax.Keeps strict := ofCorpora_keeps second options (within_contextOf fewer)
    exact ⟨keeps, counts_le second options (within_contextOf fewer), keeps.status⟩
  · intro rearranged one other
    have there : (contextOf first few).Within (contextOf first many) :=
      within_contextOf fun _ => rearranged.mem_iff.mp
    have back : (contextOf first many).Within (contextOf first few) :=
      within_contextOf fun _ => rearranged.mem_iff.mpr
    constructor
    · have commuted : one.status.join other.status = other.status.join one.status := by
        simp only [Status.join, Bool.or_comm]
      rw [← (ofCorpora_keeps second options there).status, commuted]
      exact (ofCorpora_keeps second options back).status
    · exact map_reportable_eq (counts_le second options back) (counts_le second options there)

/-- A corpus that declares some functions and has no symbols. -/
def offering (names : List String) : Corpus where
  path := "liboffer.so"
  functions := names.map fun name => { name := name, result := 0 }

/-- Hides the functions of a name. -/
def concealing (name : String) : Suppression :=
  .aboutFunction { name := { exact := some name } }

/-- The rule at two removed functions, of which one rule hides the first and two rules hide both. -/
theorem reports_of_fewer_suppressions_offering :
    let lax := ofCorpora (offering ["get", "put"]) (offering []) [concealing "get"] {}
    let strict := ofCorpora (offering ["get", "put"]) (offering [])
      [concealing "put", concealing "get"] {}
    let swapped := ofCorpora (offering ["get", "put"]) (offering [])
      [concealing "get", concealing "put"] {}
    (lax.Keeps strict ∧
        List.Forall₂ (fun strict lax : ChangeCount => strict.reportable ≤ lax.reportable)
          strict.statistics.counts lax.statistics.counts ∧
        lax.status.join strict.status = lax.status) ∧
      strict.status = swapped.status ∧
        strict.statistics.counts.map ChangeCount.reportable =
          swapped.statistics.counts.map ChangeCount.reportable :=
  ⟨(reports_of_fewer_suppressions _ _ {} [concealing "get"] [concealing "put", concealing "get"]).1
      fun _ member => List.mem_cons_of_mem _ member,
    (reports_of_fewer_suppressions _ _ {} [concealing "put", concealing "get"]
      [concealing "get", concealing "put"]).2 (.swap _ _ _)⟩

end Difference

end Abiscope
