import Abiscope.Proofs.ByteOrder
import Abiscope.Proofs.MirroredDifferences
import Abiscope.Proofs.Removals

/-!
# What becomes of every key

Two corpora have keys for their functions, keys for their variables, and id strings that they offer. A key
that only one of them has is listed once, as removed or as added; one that both have is listed at most once,
as changed. So no key is lost, and none is in two lists. Of the id strings, those are listed that one corpus
offers alone, unless a declaration of it is bound to one of their symbols.

All lists are made by going through a map in the order of its keys and leaving some of them out. What they
go by is therefore in strictly ascending order.
-/

namespace Abiscope

namespace Text

/-- Texts are in strictly ascending order of their bytes. -/
def Ascending (texts : List String) : Prop := texts.Pairwise fun one other => bytes one < bytes other

/-- The keys of a map are ascending. -/
theorem ascending_keys {δ : Type} (map : Std.TreeMap String δ) : Ascending (map.toList.map Prod.fst) := by
  rw [Ascending, List.pairwise_map]
  refine map.ordered_keys_toList.imp fun before => ?_
  exact (lt_iff_bytes_lt _ _).mp (compareOfLessAndEq_eq_lt.mp before)

/-- Leaving out some of them leaves texts ascending. -/
theorem Ascending.sublist {texts others : List String} (ascending : Ascending texts)
    (part : others.Sublist texts) : Ascending others :=
  List.Pairwise.sublist part ascending

end Text

namespace Difference

variable {α β δ ε : Type}

/-! ## What the lists go by -/

/-- What is made of items, or of some of them, goes by keys of these items, in their order. -/
theorem map_filterMap_sublist {make : α → Option β} {keyOf : β → String} {itemKey : α → String}
    {items : List α}
    (keyed : ∀ item ∈ items, ∀ found, make item = some found → keyOf found = itemKey item) :
    ((items.filterMap make).map keyOf).Sublist (items.map itemKey) := by
  induction items with
  | nil => exact List.Sublist.refl _
  | cons item rest inductionHypothesis =>
    have others := inductionHypothesis fun later member => keyed later (List.mem_cons_of_mem _ member)
    rw [List.filterMap_cons, List.map_cons]
    cases made : make item with
    | none => exact others.cons _
    | some found =>
      rw [List.map_cons, keyed item List.mem_cons_self found made]
      exact others.cons_cons _

/-- What is found when going through items goes by keys of these items, in their order. -/
theorem map_eachOf_sublist {make : α → TypeComparison.Remembering (Option β)} {keyOf : β → String}
    {itemKey : α → String} {items : List α}
    (keyed : ∀ item memory found, (make item memory).1 = some found → keyOf found = itemKey item)
    (memory : TypeComparison.Memory) :
    ((TypeComparison.eachOf make items memory).1.map keyOf).Sublist (items.map itemKey) := by
  induction items generalizing memory with
  | nil => exact List.Sublist.refl _
  | cons item rest inductionHypothesis =>
    have others := inductionHypothesis (make item memory).2
    change (((make item memory).1.toList ++
      (TypeComparison.eachOf make rest (make item memory).2).1).map keyOf).Sublist _
    rw [List.map_append, List.map_cons]
    cases made : (make item memory).1 with
    | none => exact others.cons _
    | some found =>
      rw [Option.toList_some, List.map_singleton, keyed item memory found made]
      exact others.cons_cons _

/-- What is in one map only goes by keys of that map, in their order. -/
theorem map_onlyIn_sublist {entity : String → δ → ε} {keyOf : ε → String}
    (keyed : ∀ key bound, keyOf (entity key bound) = key) (here there : Std.TreeMap String δ) :
    ((onlyIn entity here there).map keyOf).Sublist (here.toList.map Prod.fst) := by
  refine map_filterMap_sublist fun item _ found made => ?_
  obtain ⟨_, made⟩ := Option.ite_none_left_eq_some.mp made
  rw [← Option.some.inj made, keyed]

/-- What is in both of two maps goes by keys of the first one, in their order. -/
theorem map_inBoth_sublist (first second : Std.TreeMap String δ) :
    ((inBoth first second).map Prod.fst).Sublist (first.toList.map Prod.fst) := by
  refine map_filterMap_sublist fun item _ found made => ?_
  obtain ⟨_, _, rfl⟩ := Option.map_eq_some_iff.mp made
  rfl

/-- Symbols on one side only go by id strings of the interface, in their order. -/
theorem map_unreferenced_sublist (context : Suppression.Context) (kinds : Suppression.Changes)
    (here : Corpus) (there : Side) :
    ((unreferenced context kinds (Side.ofCorpus here) there).map fun change =>
      change.symbol.idString).Sublist ((Side.interfaceOf here).toList.map Prod.fst) := by
  refine map_filterMap_sublist fun item member found made => ?_
  obtain ⟨_, made⟩ := Option.ite_none_left_eq_some.mp made
  obtain ⟨symbol, held, rfl⟩ := Option.map_eq_some_iff.mp made
  have mapped : (Side.interfaceOf here).get? item.1 = some item.2 := by
    rw [Std.TreeMap.get?_eq_getElem?]
    exact Std.TreeMap.mem_toList_iff_getElem?_eq_some.mp member
  obtain ⟨same, held', named⟩ := Side.exists_symbol_of_interfaceOf mapped
  have symbols : same = symbol := Option.some.inj (held'.symm.trans held)
  rw [← symbols, named]

/-! ## Declarations of one sort -/

/-- Every key that declarations of one sort have in two corpora is accounted for by the keys of the lists
about this sort. -/
structure Accounts (old new : String → Prop) (removed added changed : List String) : Prop where
  mem_removed_iff : ∀ key, key ∈ removed ↔ old key ∧ ¬new key
  mem_added_iff : ∀ key, key ∈ added ↔ new key ∧ ¬old key
  both_of_mem_changed : ∀ key ∈ changed, old key ∧ new key
  ascending : Text.Ascending removed ∧ Text.Ascending added ∧ Text.Ascending changed
  disjoint : removed.Disjoint added ∧ removed.Disjoint changed ∧ added.Disjoint changed

/-- The lists made of two maps of declarations account for the keys of the maps. Nothing is in two lists,
as what is removed, added or changed is told by which of the maps have its key. -/
theorem accounts_of_maps {first second : Std.TreeMap String δ} {old new : String → Prop}
    (olds : ∀ key, first.contains key = true ↔ old key)
    (news : ∀ key, second.contains key = true ↔ new key)
    (removedEntity addedEntity : String → δ → ε) (keyOf : ε → String)
    (removedKeyed : ∀ key bound, keyOf (removedEntity key bound) = key)
    (addedKeyed : ∀ key bound, keyOf (addedEntity key bound) = key) {changed : List String}
    (inside : changed.Sublist ((inBoth first second).map Prod.fst)) :
    Accounts old new ((onlyIn removedEntity first second).map keyOf)
      ((onlyIn addedEntity second first).map keyOf) changed := by
  have removedIff (key : String) :
      key ∈ (onlyIn removedEntity first second).map keyOf ↔ old key ∧ ¬new key := by
    rw [List.mem_map, exists_mem_onlyIn removedKeyed, olds, ← news, Bool.not_eq_true]
  have addedIff (key : String) :
      key ∈ (onlyIn addedEntity second first).map keyOf ↔ new key ∧ ¬old key := by
    rw [List.mem_map, exists_mem_onlyIn addedKeyed, news, ← olds, Bool.not_eq_true]
  have both : ∀ key ∈ changed, old key ∧ new key := by
    intro key member
    obtain ⟨item, found, rfl⟩ := List.mem_map.mp (inside.subset member)
    obtain ⟨ofFirst, ofSecond⟩ := (mem_inBoth first second item).mp found
    rw [← olds, ← news, Std.TreeMap.contains_eq_isSome_getElem?, Std.TreeMap.contains_eq_isSome_getElem?]
    exact ⟨Option.isSome_of_mem ofFirst, Option.isSome_of_mem ofSecond⟩
  constructor
  case mem_removed_iff => exact removedIff
  case mem_added_iff => exact addedIff
  case both_of_mem_changed => exact both
  case ascending =>
    exact ⟨(Text.ascending_keys first).sublist (map_onlyIn_sublist removedKeyed first second),
      (Text.ascending_keys second).sublist (map_onlyIn_sublist addedKeyed second first),
      (Text.ascending_keys first).sublist (inside.trans (map_inBoth_sublist first second))⟩
  case disjoint =>
    refine ⟨fun key removed added => ?_, fun key removed found => ?_, fun key added found => ?_⟩
    · exact ((addedIff key).mp added).2 ((removedIff key).mp removed).1
    · exact ((removedIff key).mp removed).2 (both key found).2
    · exact ((addedIff key).mp added).2 (both key found).1

/-! ## The whole -/

/-- Every key of two corpora is accounted for once in a difference, and the symbols that are listed are
none that a declaration is bound to. -/
structure AccountsForKeys (first second : Corpus) (difference : Difference) : Prop where
  functions : Accounts (first.Keys first.functionNames) (second.Keys second.functionNames)
    (difference.removedFunctions.map EntityChange.key) (difference.addedFunctions.map EntityChange.key)
    (difference.changedFunctions.map FunctionDifference.key)
  globals : Accounts (first.Keys first.globalNames) (second.Keys second.globalNames)
    (difference.removedVariables.map EntityChange.key) (difference.addedVariables.map EntityChange.key)
    (difference.changedVariables.map VariableDifference.key)
  symbols_ascending : ∀ list ∈ [difference.removedFunctionSymbols, difference.removedVariableSymbols,
      difference.addedFunctionSymbols, difference.addedVariableSymbols],
    Text.Ascending (list.map fun change => change.symbol.idString)
  removed_undeclared : ∀ change ∈ difference.removedFunctionSymbols ++ difference.removedVariableSymbols,
    ¬first.Declares change.symbol.idString
  added_undeclared : ∀ change ∈ difference.addedFunctionSymbols ++ difference.addedVariableSymbols,
    ¬second.Declares change.symbol.idString
  symbols_disjoint : ∀ removed ∈ difference.removedFunctionSymbols ++ difference.removedVariableSymbols,
    ∀ added ∈ difference.addedFunctionSymbols ++ difference.addedVariableSymbols,
      removed.symbol.idString ≠ added.symbol.idString

variable (first second : Corpus) (suppressions : List Suppression) (options : Options)

/-- The keys of functions are accounted for. -/
theorem accounts_functions :
    Accounts (first.Keys first.functionNames) (second.Keys second.functionNames)
      ((ofCorpora first second suppressions options).removedFunctions.map EntityChange.key)
      ((ofCorpora first second suppressions options).addedFunctions.map EntityChange.key)
      ((ofCorpora first second suppressions options).changedFunctions.map FunctionDifference.key) := by
  refine accounts_of_maps (Side.contains_functions first) (Side.contains_functions second)
    (functionEntity (contextOf first suppressions) Suppression.Changes.onlyDeleted (Side.ofCorpus first))
    (functionEntity (contextOf first suppressions) Suppression.Changes.onlyAdded (Side.ofCorpus second))
    EntityChange.key (fun _ _ => rfl) (fun _ _ => rfl) ?_
  have keyed : ∀ item memory found,
      (functionEntry first second suppressions item memory).1 = some found → found.key = item.1 :=
    fun _ _ _ => key_changedFunction
  rw [changedFunctions_ofCorpora]
  exact map_eachOf_sublist keyed _

/-- The keys of variables are accounted for. -/
theorem accounts_globals :
    Accounts (first.Keys first.globalNames) (second.Keys second.globalNames)
      ((ofCorpora first second suppressions options).removedVariables.map EntityChange.key)
      ((ofCorpora first second suppressions options).addedVariables.map EntityChange.key)
      ((ofCorpora first second suppressions options).changedVariables.map VariableDifference.key) := by
  refine accounts_of_maps (Side.contains_globals first) (Side.contains_globals second)
    (variableEntity (contextOf first suppressions) Suppression.Changes.onlyDeleted (Side.ofCorpus first))
    (variableEntity (contextOf first suppressions) Suppression.Changes.onlyAdded (Side.ofCorpus second))
    EntityChange.key (fun _ _ => rfl) (fun _ _ => rfl) ?_
  have keyed : ∀ item memory found,
      (globalEntry first second suppressions item memory).1 = some found → found.key = item.1 :=
    fun _ _ _ => key_changedVariable
  rw [changedVariables_ofCorpora]
  exact map_eachOf_sublist keyed _

variable (context : Suppression.Context) (kinds : Suppression.Changes) (here there : Corpus)

/-- The symbols that are listed for one side are in ascending order of their id strings. -/
theorem ascending_listedSymbols : Text.Ascending
    ((listedSymbols options context kinds here there).map fun change => change.symbol.idString) := by
  rw [listedSymbols]
  split
  · exact (Text.ascending_keys _).sublist (map_unreferenced_sublist context kinds here _)
  · exact List.Pairwise.nil

variable {options context kinds}

/-- A symbol that is listed for one side has an id string that this side offers alone and that none of its
declarations is bound to. -/
theorem offers_of_mem_listedSymbols {change : SymbolChange}
    (member : change ∈ listedSymbols options context kinds here there) :
    here.Offers change.symbol.idString ∧ ¬here.Declares change.symbol.idString ∧
      ¬there.Offers change.symbol.idString := by
  rw [listedSymbols] at member
  split at member
  · obtain ⟨offered, undeclared, lacking⟩ :=
      (exists_mem_unreferenced context kinds here _ _).mp ⟨change, member, rfl⟩
    refine ⟨offered, undeclared, fun present => ?_⟩
    have contains := (Side.contains_interfaceOf there _).mpr present
    exact Bool.false_ne_true (lacking.symm.trans contains)
  · contradiction

/-- What is in one of two parts of a list is in the list. -/
theorem mem_of_mem_filters {α : Type} {test other : α → Bool} {items : List α} {item : α}
    (member : item ∈ items.filter test ++ items.filter other) : item ∈ items := by
  rcases List.mem_append.mp member with inside | inside
  · exact (List.mem_filter.mp inside).1
  · exact (List.mem_filter.mp inside).1

/-- A comparison accounts once for every key of functions and of variables, and lists symbols, in ascending
order, only if no declaration of their side is bound to them and if the other side does not list them. -/
theorem accountsForKeys_ofCorpora (first second : Corpus) (suppressions : List Suppression)
    (options : Options) :
    (ofCorpora first second suppressions options).AccountsForKeys first second := by
  have removed {change : SymbolChange}
      (member : change ∈ (ofCorpora first second suppressions options).removedFunctionSymbols ++
        (ofCorpora first second suppressions options).removedVariableSymbols) :=
    offers_of_mem_listedSymbols first second (mem_of_mem_filters member)
  have added {change : SymbolChange}
      (member : change ∈ (ofCorpora first second suppressions options).addedFunctionSymbols ++
        (ofCorpora first second suppressions options).addedVariableSymbols) :=
    offers_of_mem_listedSymbols second first (mem_of_mem_filters member)
  constructor
  case functions => exact accounts_functions first second suppressions options
  case globals => exact accounts_globals first second suppressions options
  case symbols_ascending =>
    have removedAscending := ascending_listedSymbols options (contextOf first suppressions)
      Suppression.Changes.onlyDeleted first second
    have addedAscending := ascending_listedSymbols options (contextOf first suppressions)
      Suppression.Changes.onlyAdded second first
    simp only [List.forall_mem_cons, List.not_mem_nil, false_imp_iff, implies_true, and_true]
    exact ⟨removedAscending.sublist (List.filter_sublist.map _),
      removedAscending.sublist (List.filter_sublist.map _),
      addedAscending.sublist (List.filter_sublist.map _),
      addedAscending.sublist (List.filter_sublist.map _)⟩
  case removed_undeclared => exact fun change member => (removed member).2.1
  case added_undeclared => exact fun change member => (added member).2.1
  case symbols_disjoint =>
    intro removedChange removedMember addedChange addedMember same
    have offered := (added addedMember).1
    rw [← same] at offered
    exact (removed removedMember).2.2 offered

end Difference

end Abiscope
