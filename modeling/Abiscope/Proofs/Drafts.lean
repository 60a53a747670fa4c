import Abiscope.Proofs.OfferedSymbols
import Abiscope.Proofs.SymbolGroups
import Mathlib.Data.List.Nodup

/-!
# Tables in the making

A table is filled by reading the entries of a binary one after the other. An entry counts as a symbol if it
has a name and is a function or a variable, other than a variable at an absolute address or a marker of a
kernel. Every symbol that is added goes behind those that are there, under its name, and leaves what was
recorded for the others as it is. So what a table holds after any number of entries is read off those of them
that count, in their order.

Markers are noted, and the first one that comes a second time ends the run. Whether that happens depends on
the entries alone. When all entries are read, the symbols of the names that were noted are found by name and
marked, which comes to the same as asking every symbol for its name.
-/

namespace Abiscope.Symbol

/-! ## Entries that count as symbols -/

namespace Entry

/-- The entry is a function, an indirect function or a thread-local variable, or another variable that is
not at an absolute address. -/
def HasKeptType (entry : Entry) : Prop :=
  entry.typeCode = 2 ∨ entry.typeCode = 10 ∨ entry.typeCode = 6 ∨
    entry.typeCode = 1 ∧ entry.place ≠ .absolute

instance (entry : Entry) : Decidable entry.HasKeptType :=
  inferInstanceAs (Decidable (_ ∨ _ ∨ _ ∨ _ ∧ _))

/-- In a kernel, an entry whose name opens with the marker text is a marker. -/
def IsMarker (flavor : Flavor) (entry : Entry) : Prop :=
  flavor.isKernel = true ∧ Table.markerText.toList <+: entry.name.toList

instance (flavor : Flavor) (entry : Entry) : Decidable (entry.IsMarker flavor) :=
  inferInstanceAs (Decidable (_ ∧ _))

/-- The entry counts as a symbol. -/
def IsSymbol (flavor : Flavor) (entry : Entry) : Prop :=
  entry.name ≠ "" ∧ ¬entry.IsMarker flavor ∧ entry.HasKeptType

instance (flavor : Flavor) (entry : Entry) : Decidable (entry.IsSymbol flavor) :=
  inferInstanceAs (Decidable (_ ∧ _ ∧ _))

/-- The type numbers of the kinds that are kept. -/
theorem ofCode_eq_iff (code : Nat) :
    (Kind.ofCode code = .function ↔ code = 2) ∧ (Kind.ofCode code = .indirectFunction ↔ code = 10) ∧
      (Kind.ofCode code = .threadLocal ↔ code = 6) ∧ (Kind.ofCode code = .object ↔ code = 1) := by
  unfold Kind.ofCode
  split <;> simp_all

theorem isKept_iff (entry : Entry) : entry.isKept = true ↔ entry.HasKeptType := by
  obtain ⟨function, indirect, threadLocal, object⟩ := ofCode_eq_iff entry.typeCode
  rw [isKept, HasKeptType, ← function, ← indirect, ← threadLocal, ← object]
  cases Kind.ofCode entry.typeCode <;> simp

/-- A name is marked by the entries whose names are the marker text with the name behind it. -/
theorem markedName?_eq_some_iff (entry : Entry) (name : String) :
    Table.markedName? entry = some name ↔ entry.name = Table.markerText ++ name := by
  rw [Table.markedName?, Option.map_eq_some_iff]
  constructor
  · rintro ⟨rest, dropped, rfl⟩
    exact String.eq_append_of_dropPrefix?_string_eq_some dropped
  · intro named
    have opens : entry.name.startsWith Table.markerText = true := by
      rw [String.startsWith_string_iff, named, String.toList_append]
      exact List.prefix_append _ _
    obtain ⟨rest, dropped⟩ : ∃ rest, entry.name.dropPrefix? Table.markerText = some rest := by
      rw [← Option.ne_none_iff_exists', String.dropPrefix?_eq_dropPrefix?_toSlice, Ne,
        String.Slice.dropPrefix?_eq_none_iff, String.startsWith_toSlice, Bool.not_eq_false, opens]
    refine ⟨rest, dropped, ?_⟩
    have again := String.eq_append_of_dropPrefix?_string_eq_some dropped
    rw [named] at again
    exact (String.append_right_inj _).mp again.symm

/-- Only in a kernel names are marked. -/
theorem marker?_eq_some_iff (flavor : Flavor) (entry : Entry) (name : String) :
    Table.marker? flavor entry = some name ↔
      flavor.isKernel = true ∧ entry.name = Table.markerText ++ name := by
  rw [Table.marker?, ← markedName?_eq_some_iff]
  cases flavor.isKernel <;> simp

/-- An entry that marks no name is no marker. -/
theorem marker?_eq_none_iff (flavor : Flavor) (entry : Entry) :
    Table.marker? flavor entry = none ↔ ¬entry.IsMarker flavor := by
  rw [Option.eq_none_iff_forall_ne_some, IsMarker, not_and]
  simp only [Ne, marker?_eq_some_iff, not_and]
  constructor
  · rintro unmarked kernel ⟨rest, opens⟩
    refine unmarked (String.ofList rest) kernel (String.toList_injective ?_)
    rw [String.toList_append, String.toList_ofList, opens]
  · rintro unmarked name kernel named
    refine unmarked kernel ?_
    rw [named, String.toList_append]
    exact List.prefix_append _ _

/-- A marker has a name. -/
theorem name_ne_of_marker? {flavor : Flavor} {entry : Entry} {name : String}
    (marked : Table.marker? flavor entry = some name) : entry.name ≠ "" := by
  intro empty
  have named := ((marker?_eq_some_iff flavor entry name).mp marked).2
  rw [empty, ← String.toList_inj, String.toList_append] at named
  contradiction

/-- The symbol of an entry as it is added. -/
def added (suppresses : Symbol → Bool) (entry : Entry) : Symbol :=
  { entry.toSymbol with isSuppressed := suppresses { entry.toSymbol with address := none } }

end Entry

/-- Marks a symbol if its name is exported and other binaries can bind to it. -/
def Table.markExports (exports : List String) (symbol : Symbol) : Symbol :=
  if symbol.isPublic && exports.contains symbol.name then { symbol with isExported := true }
  else symbol

namespace Entry

/-- The symbol that a table holds for an entry, where a list of names is exported. -/
def recorded (exports : List String) (suppresses : Symbol → Bool) (entry : Entry) : Symbol :=
  Table.markExports exports (added suppresses entry)

/-- A symbol is the one of an entry, and suppressed if the predicate says so of the symbol before its
address is known. -/
structure Gives (suppresses : Symbol → Bool) (entry : Entry) (symbol : Symbol) : Prop where
  same : { symbol with isSuppressed := false, isExported := false } = entry.toSymbol
  isSuppressed : symbol.isSuppressed = suppresses { entry.toSymbol with address := none }

/-- Marking exports only marks exports. -/
theorem gives_recorded (exports : List String) (suppresses : Symbol → Bool) (entry : Entry) :
    Gives suppresses entry (recorded exports suppresses entry) := by
  rw [recorded, Table.markExports]
  split <;> exact ⟨rfl, rfl⟩

/-- A symbol is recorded under the name of its entry. -/
theorem name_recorded (exports : List String) (suppresses : Symbol → Bool) (entry : Entry) :
    (recorded exports suppresses entry).name = entry.name :=
  (congrArg Symbol.name (gives_recorded exports suppresses entry).same :)

/-- A symbol is recorded at the address of its entry. -/
theorem address_recorded (exports : List String) (suppresses : Symbol → Bool) (entry : Entry) :
    (recorded exports suppresses entry).address = entry.toSymbol.address :=
  (congrArg Symbol.address (gives_recorded exports suppresses entry).same :)

end Entry

namespace Table

/-! ## Filling a table -/

/-- A table after some symbols were added. -/
def filled (flavor : Flavor) (suppresses : Symbol → Bool) (entries : List Entry) : Table :=
  entries.foldl (addEntry suppresses) { flavor := flavor }

variable {flavor : Flavor} {suppresses : Symbol → Bool} {entries : List Entry} {entry : Entry}

/-- A further entry is added to what is there. -/
theorem filled_append (flavor : Flavor) (suppresses : Symbol → Bool) (entries : List Entry)
    (entry : Entry) : filled flavor suppresses (entries ++ [entry]) =
      (filled flavor suppresses entries).addEntry suppresses entry :=
  List.foldl_append

/-- Adding symbols changes neither the flavor nor what is listed and exported. -/
theorem filled_untouched (flavor : Flavor) (suppresses : Symbol → Bool) (entries : List Entry) :
    (filled flavor suppresses entries).flavor = flavor ∧
      (filled flavor suppresses entries).listed = [] ∧
      (filled flavor suppresses entries).hasExports = false := by
  induction entries using List.reverseRecOn with
  | nil => exact ⟨rfl, rfl, rfl⟩
  | append_singleton entries entry inductionHypothesis =>
    rw [filled_append]
    exact inductionHypothesis

/-- The symbols are those that were added, in their order. -/
theorem symbols_filled (flavor : Flavor) (suppresses : Symbol → Bool) (entries : List Entry) :
    (filled flavor suppresses entries).symbols =
      (entries.map (Entry.added suppresses)).toArray := by
  induction entries using List.reverseRecOn with
  | nil => rfl
  | append_singleton entries entry inductionHypothesis =>
    rw [filled_append, List.map_append, List.map_singleton, ← List.push_toArray, ← inductionHypothesis]
    rfl

/-- As many symbols are there as were added. -/
theorem size_symbols_filled (flavor : Flavor) (suppresses : Symbol → Bool) (entries : List Entry) :
    (filled flavor suppresses entries).symbols.size = entries.length := by
  rw [symbols_filled, List.size_toArray, List.length_map]

/-- Under their names stand the symbols that were added. -/
theorem names_filled (flavor : Flavor) (suppresses : Symbol → Bool) (entries : List Entry) :
    (filled flavor suppresses entries).names =
      Groups.ofKeys (fun entry => some entry.name) entries := by
  induction entries using List.reverseRecOn with
  | nil => rfl
  | append_singleton entries entry inductionHypothesis =>
    have further := Groups.ofKeys_append_of_some (fun entry : Entry => some entry.name)
      (rfl : _ = some entry.name) entries
    rw [filled_append, further, ← inductionHypothesis, ← size_symbols_filled flavor suppresses entries]
    rfl

/-- The aliases are those of the addresses of the symbols that were added. -/
theorem aliasIndex_filled (flavor : Flavor) (suppresses : Symbol → Bool) (entries : List Entry) :
    (filled flavor suppresses entries).aliasIndex =
      AliasIndex.ofAddresses (entries.map fun entry => entry.toSymbol.address) := by
  induction entries using List.reverseRecOn with
  | nil => rfl
  | append_singleton entries entry inductionHypothesis =>
    rw [filled_append, List.map_append, AliasIndex.ofAddresses, List.zipIdx_append, List.foldl_append,
      ← AliasIndex.ofAddresses, ← inductionHypothesis, addEntry, size_symbols_filled, List.length_map]
    cases addressed : entry.toSymbol.address <;>
      simp only [List.map_singleton, List.zipIdx_singleton, List.foldl_cons, List.foldl_nil, Nat.zero_add,
        addressed]

/-- Where functions are not reached through descriptors, no code addresses are recorded. -/
theorem codeAddresses_filled_of_plain (plain : flavor.usesDescriptors = false) :
    (filled flavor suppresses entries).codeAddresses = ∅ := by
  induction entries using List.reverseRecOn with
  | nil => rfl
  | append_singleton entries entry inductionHypothesis =>
    rw [filled_append, addEntry, (filled_untouched flavor suppresses entries).1, plain]
    exact inductionHypothesis

/-! ## Reading entries -/

/-- The names that entries mark, in their order. -/
def markersOf (flavor : Flavor) (entries : List Entry) : List String :=
  entries.filterMap (marker? flavor)

namespace Draft

variable {draft : Draft} {name : String}

/-- A marker of a new name is noted. -/
theorem read_of_new (marked : marker? draft.table.flavor entry = some name)
    (new : name ∉ draft.exports) :
    draft.read suppresses entry = .ok { draft with exports := name :: draft.exports } := by
  rw [read, if_neg (mt eq_of_beq (Entry.name_ne_of_marker? marked)), marked]
  exact if_neg (mt List.contains_iff_mem.mp new)

/-- A marker of a name that is noted ends the run. -/
theorem read_of_noted (marked : marker? draft.table.flavor entry = some name)
    (noted : name ∈ draft.exports) :
    draft.read suppresses entry = .error (.duplicateMarker name) := by
  rw [read, if_neg (mt eq_of_beq (Entry.name_ne_of_marker? marked)), marked]
  exact if_pos (List.contains_iff_mem.mpr noted)

/-- An entry that counts as a symbol is added. -/
theorem read_of_isSymbol (counts : entry.IsSymbol draft.table.flavor) :
    draft.read suppresses entry = .ok { draft with table := draft.table.addEntry suppresses entry } := by
  rw [read, if_neg (mt eq_of_beq counts.1), (Entry.marker?_eq_none_iff _ _).mpr counts.2.1]
  exact if_pos ((Entry.isKept_iff entry).mpr counts.2.2)

/-- An entry that is neither a marker nor a symbol changes nothing. -/
theorem read_of_idle (unmarked : marker? draft.table.flavor entry = none)
    (idle : ¬entry.IsSymbol draft.table.flavor) : draft.read suppresses entry = .ok draft := by
  rw [read]
  split
  case isTrue => rfl
  case isFalse named =>
    have dropped : ¬entry.isKept = true := fun kept =>
      idle ⟨mt beq_iff_eq.mpr named, (Entry.marker?_eq_none_iff _ _).mp unmarked,
        (Entry.isKept_iff entry).mp kept⟩
    rw [unmarked]
    exact if_neg dropped

/-- An entry that is no marker is read without error, and nothing is noted. -/
theorem exists_read_of_unmarked (suppresses : Symbol → Bool) {table : Table} (exports : List String)
    (unmarked : marker? table.flavor entry = none) :
    ∃ next : Table, next.flavor = table.flavor ∧
      Draft.read suppresses ⟨table, exports⟩ entry = .ok ⟨next, exports⟩ := by
  by_cases counts : entry.IsSymbol table.flavor
  · exact ⟨table.addEntry suppresses entry, rfl, read_of_isSymbol counts⟩
  · exact ⟨table, rfl, read_of_idle unmarked counts⟩

/-- If no name is marked twice, the entries that count are added and the names noted. -/
theorem foldlM_read (suppresses : Symbol → Bool) (entries : List Entry) (draft : Draft)
    (distinct : ((markersOf draft.table.flavor entries).reverse ++ draft.exports).Nodup) :
    entries.foldlM (Draft.read suppresses) draft = .ok
      ⟨(entries.filter fun entry => entry.IsSymbol draft.table.flavor).foldl (addEntry suppresses)
          draft.table,
        (markersOf draft.table.flavor entries).reverse ++ draft.exports⟩ := by
  induction entries generalizing draft with
  | nil => rfl
  | cons entry rest inductionHypothesis =>
    rw [List.foldlM_cons]
    cases marked : marker? draft.table.flavor entry with
    | some name =>
      have noted : markersOf draft.table.flavor (entry :: rest) =
          name :: markersOf draft.table.flavor rest := List.filterMap_cons_some marked
      have isMarker : ¬entry.IsSymbol draft.table.flavor := fun counts =>
        Option.some_ne_none name (marked.symm.trans ((Entry.marker?_eq_none_iff _ _).mpr counts.2.1))
      rw [noted, List.reverse_cons, List.append_assoc] at distinct ⊢
      have new : name ∉ draft.exports := (List.nodup_cons.mp (List.nodup_append.mp distinct).2.1).1
      rw [read_of_new marked new, List.filter_cons_of_neg (by simpa using isMarker)]
      exact inductionHypothesis { draft with exports := name :: draft.exports } distinct
    | none =>
      have noted : markersOf draft.table.flavor (entry :: rest) =
          markersOf draft.table.flavor rest := List.filterMap_cons_none marked
      rw [noted] at distinct ⊢
      by_cases counts : entry.IsSymbol draft.table.flavor
      · rw [read_of_isSymbol counts, List.filter_cons_of_pos (by simpa using counts), List.foldl_cons]
        exact inductionHypothesis { draft with table := draft.table.addEntry suppresses entry } distinct
      · rw [read_of_idle marked counts, List.filter_cons_of_neg (by simpa using counts)]
        exact inductionHypothesis draft distinct

/-- If a name is marked twice, the run ends with the same error whatever the table and the predicate are. -/
theorem exists_foldlM_read_eq_error (flavor : Flavor) (entries : List Entry) (exports : List String)
    (noted : exports.Nodup)
    (repeated : ¬((markersOf flavor entries).reverse ++ exports).Nodup) :
    ∃ name, ∀ (suppresses : Symbol → Bool) (table : Table), table.flavor = flavor →
      entries.foldlM (Draft.read suppresses) ⟨table, exports⟩ = .error (.duplicateMarker name) := by
  induction entries generalizing exports with
  | nil => exact absurd noted repeated
  | cons entry rest inductionHypothesis =>
    cases marked : marker? flavor entry with
    | some name =>
      by_cases again : name ∈ exports
      · refine ⟨name, fun suppresses table same => ?_⟩
        subst same
        have ended : Draft.read suppresses ⟨table, exports⟩ entry = .error (.duplicateMarker name) :=
          read_of_noted marked again
        rw [List.foldlM_cons, ended]
        rfl
      · have further : markersOf flavor (entry :: rest) = name :: markersOf flavor rest :=
          List.filterMap_cons_some marked
        rw [further, List.reverse_cons, List.append_assoc] at repeated
        obtain ⟨second, ends⟩ := inductionHypothesis (name :: exports)
          (List.nodup_cons.mpr ⟨again, noted⟩) repeated
        refine ⟨second, fun suppresses table same => ?_⟩
        have first : Draft.read suppresses ⟨table, exports⟩ entry = .ok ⟨table, name :: exports⟩ := by
          subst same
          exact read_of_new marked again
        rw [List.foldlM_cons, first]
        exact ends suppresses table same
    | none =>
      have further : markersOf flavor (entry :: rest) = markersOf flavor rest :=
        List.filterMap_cons_none marked
      rw [further] at repeated
      obtain ⟨second, ends⟩ := inductionHypothesis exports noted repeated
      refine ⟨second, fun suppresses table same => ?_⟩
      subst same
      obtain ⟨next, sameFlavor, first⟩ := exists_read_of_unmarked suppresses exports marked
      rw [List.foldlM_cons, first]
      exact ends suppresses next sameFlavor

end Draft

/-! ## Marking exports -/

/-- Places that are changed one after the other are changed once each, if a second change makes no
difference. -/
theorem getElem?_foldl_modify {α : Type} {change : α → α} (idempotent : ∀ item, change (change item) = change item)
    (places : List Nat) (items : Array α) (place : Nat) :
    (places.foldl (fun items place => items.modify place change) items)[place]? =
      if place ∈ places then items[place]?.map change else items[place]? := by
  induction places generalizing items with
  | nil => simp
  | cons first rest inductionHypothesis =>
    rw [List.foldl_cons, inductionHypothesis, Array.getElem?_modify]
    by_cases same : first = place
    · cases items[place]? <;> simp [same, idempotent]
    · simp [same, Ne.symm same]

/-- A symbol that is marked stays as it is. -/
theorem markExport_markExport (symbol : Symbol) : markExport (markExport symbol) = markExport symbol := by
  by_cases isPublic : symbol.isPublic = true
  · have marked : markExport symbol = { symbol with isExported := true } := if_pos isPublic
    rw [marked]
    exact if_pos isPublic
  · have unmarked : markExport symbol = symbol := if_neg isPublic
    rw [unmarked, unmarked]

/-- A symbol of an exported name is marked if other binaries can bind to it. -/
theorem markExports_of_mem {exports : List String} {symbol : Symbol} (exported : symbol.name ∈ exports) :
    markExports exports symbol = markExport symbol := by
  rw [markExports, List.contains_iff_mem.mpr exported, Bool.and_true]
  rfl

/-- A symbol of any other name is not marked. -/
theorem markExports_of_not_mem {exports : List String} {symbol : Symbol}
    (unexported : symbol.name ∉ exports) : markExports exports symbol = symbol := by
  have absent : exports.contains symbol.name = false := by
    rwa [← Bool.not_eq_true, List.contains_iff_mem]
  rw [markExports, absent, Bool.and_false]
  rfl

/-- Finding the symbols of exported names marks every symbol whose name is exported. -/
theorem symbols_withExports_filled (flavor : Flavor) (suppresses : Symbol → Bool) (entries : List Entry)
    (exports : List String) :
    ((filled flavor suppresses entries).withExports exports).symbols =
      (entries.map (Entry.recorded exports suppresses)).toArray := by
  refine Array.ext_getElem? fun place => ?_
  have found : place ∈ exports.flatMap (filled flavor suppresses entries).findName ↔
      ∃ name ∈ exports, entries[place]?.map Entry.name = some name := by
    simp only [List.mem_flatMap, findName, names_filled, Groups.get_ofKeys, mem_placesOf,
      List.getElem?_map, Option.map_eq_some_iff, Option.some_inj]
  rw [withExports, getElem?_foldl_modify markExport_markExport, symbols_filled, List.getElem?_toArray,
    List.getElem?_toArray, List.getElem?_map, List.getElem?_map]
  cases held : entries[place]? with
  | none => simp
  | some entry =>
    simp only [held, Option.map_some, Option.some_inj, exists_eq_right'] at found
    by_cases exported : entry.name ∈ exports
    · rw [if_pos (found.mpr exported), Option.map_some, Option.map_some, Option.map_some,
        Entry.recorded, markExports_of_mem exported]
    · rw [if_neg (mt found.mp exported), Option.map_some, Option.map_some, Entry.recorded,
        markExports_of_not_mem exported]

/-! ## The whole run -/

/-- Groups of items by what is made of them. -/
theorem ofKeys_map {α β : Type} (key? : β → Option String) (make : α → β) (items : List α) :
    Groups.ofKeys key? (items.map make) = Groups.ofKeys (fun item => key? (make item)) items := by
  rw [Groups.ofKeys, List.zipIdx_map, List.foldl_map]
  rfl

/-- A table that is filled, marked and sorted is the one of the symbols that are recorded, but for what is
kept beside the symbols and their names and addresses. -/
theorem sorted_withExports_filled (flavor : Flavor) (suppresses : Symbol → Bool) (entries : List Entry)
    (exports : List String) :
    ((filled flavor suppresses entries).withExports exports).sorted =
      { ofSymbols (entries.map (Entry.recorded exports suppresses)) Symbol.name with
        codeAddresses := (filled flavor suppresses entries).codeAddresses
        instances := (filled flavor suppresses entries).instances
        flavor := flavor
        hasExports := !exports.isEmpty } := by
  have symbols := symbols_withExports_filled flavor suppresses entries exports
  refine Table.ext symbols ?_ ?_ ?_ rfl rfl (filled_untouched flavor suppresses entries).1 rfl
  case refine_1 =>
    change sortByIdString _ _ = _
    simp only [symbol?, symbols]
    exact (listsUnsuppressed_ofSymbols _ Symbol.name).symm
  case refine_2 =>
    refine (names_filled flavor suppresses entries).trans ?_
    simp only [ofSymbols, ofKeys_map, Entry.name_recorded]
  case refine_3 =>
    refine (aliasIndex_filled flavor suppresses entries).trans ?_
    simp only [ofSymbols, List.map_map, Function.comp_def, Entry.address_recorded]

/-- If no name is marked twice, a table holds what is recorded for the entries that count, where the names
that were marked are exported. It finds and lists these symbols. -/
theorem ofEntries_of_nodup (suppresses : Symbol → Bool)
    (distinct : (markersOf flavor entries).Nodup) :
    ofEntries entries flavor suppresses = .ok
      { ofSymbols ((entries.filter fun entry => entry.IsSymbol flavor).map
          (Entry.recorded (markersOf flavor entries) suppresses)) Symbol.name with
        codeAddresses :=
          (filled flavor suppresses (entries.filter fun entry => entry.IsSymbol flavor)).codeAddresses
        instances :=
          (filled flavor suppresses (entries.filter fun entry => entry.IsSymbol flavor)).instances
        flavor := flavor
        hasExports := !(markersOf flavor entries).isEmpty } := by
  have read := Draft.foldlM_read suppresses entries { table := { flavor := flavor } }
    (by rwa [List.append_nil, List.nodup_reverse])
  -- The order in which names were noted does not matter.
  have reversed : Entry.recorded (markersOf flavor entries).reverse suppresses =
      Entry.recorded (markersOf flavor entries) suppresses := by
    funext entry
    rw [Entry.recorded, Entry.recorded, markExports, markExports, List.contains_reverse]
  rw [List.append_nil] at read
  rw [ofEntries, read, Except.map, ← reversed, ← List.isEmpty_reverse]
  exact congrArg Except.ok (sorted_withExports_filled flavor suppresses _ _)

/-- If a name is marked twice, no table is made, whatever the predicate is. -/
theorem exists_ofEntries_eq_error (repeated : ¬(markersOf flavor entries).Nodup) :
    ∃ name, ∀ suppresses : Symbol → Bool,
      ofEntries entries flavor suppresses = .error (.duplicateMarker name) := by
  obtain ⟨name, ends⟩ := Draft.exists_foldlM_read_eq_error flavor entries [] List.nodup_nil
    (by rwa [List.append_nil, List.nodup_reverse])
  refine ⟨name, fun suppresses => ?_⟩
  rw [ofEntries, ends suppresses { flavor := flavor } rfl]
  rfl

/-- A table that is made holds what is recorded for the entries that count. -/
theorem eq_of_ofEntries {table : Table} (made : ofEntries entries flavor suppresses = .ok table) :
    (markersOf flavor entries).Nodup ∧ table =
      { ofSymbols ((entries.filter fun entry => entry.IsSymbol flavor).map
          (Entry.recorded (markersOf flavor entries) suppresses)) Symbol.name with
        codeAddresses :=
          (filled flavor suppresses (entries.filter fun entry => entry.IsSymbol flavor)).codeAddresses
        instances :=
          (filled flavor suppresses (entries.filter fun entry => entry.IsSymbol flavor)).instances
        flavor := flavor
        hasExports := !(markersOf flavor entries).isEmpty } := by
  by_cases distinct : (markersOf flavor entries).Nodup
  · exact ⟨distinct, Except.ok.inj (made.symm.trans (ofEntries_of_nodup suppresses distinct))⟩
  · obtain ⟨name, ends⟩ := exists_ofEntries_eq_error distinct
    have failed := ends suppresses
    rw [made] at failed
    contradiction

end Table

end Abiscope.Symbol
