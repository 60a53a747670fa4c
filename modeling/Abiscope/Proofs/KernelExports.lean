import Abiscope.Proofs.SymbolTables

/-!
# Exports of a kernel

The markers of a kernel are no symbols. They may stand anywhere among the entries, before or behind the
symbols that they name, and none may come twice. When all entries are read, every public symbol of a marked
name is an export, suppressed or not, and what a kernel offers are those exports that are not suppressed. In
any other binary an entry with the name of a marker is an entry like all others, and there are no exports.
-/

namespace Abiscope.Symbol

namespace Entry

/-- A symbol is exported if it is public and its name is among those that are. -/
theorem isExported_recorded_iff (exports : List String) (suppresses : Symbol → Bool) (entry : Entry) :
    (recorded exports suppresses entry).isExported = true ↔
      (recorded exports suppresses entry).isPublic = true ∧
        (recorded exports suppresses entry).name ∈ exports := by
  rw [recorded, Table.markExports]
  split
  case isTrue marked =>
    rw [Bool.and_eq_true, List.contains_iff_mem] at marked
    exact iff_of_true rfl marked
  case isFalse unmarked =>
    rw [Bool.and_eq_true, List.contains_iff_mem] at unmarked
    exact iff_of_false Bool.false_ne_true unmarked

end Entry

namespace Table

/-- Some entry has the name of the marker for a name. -/
def Marks (entries : List Entry) (name : String) : Prop :=
  ∃ entry ∈ entries, entry.name = markerText ++ name

/-- Two entries have the name of the marker for one name. -/
def MarksTwice (entries : List Entry) : Prop :=
  ∃ (name : String) (one other : Nat), one < other ∧
    entries[one]?.map Entry.name = some (markerText ++ name) ∧
    entries[other]?.map Entry.name = some (markerText ++ name)

/-- The table of a kernel has the exports that its entries mark. -/
structure HasExportsOf (table : Table) (entries : List Entry) : Prop where
  /-- Markers are no symbols. -/
  no_marker : ∀ place symbol, table.symbol? place = some symbol →
    ∀ name, symbol.name ≠ markerText ++ name
  /-- Exports are the public symbols of marked names. -/
  isExported_iff : ∀ place symbol, table.symbol? place = some symbol →
    (symbol.isExported = true ↔ symbol.isPublic = true ∧ Marks entries symbol.name)
  /-- A kernel has something to offer if there is any marker. -/
  hasSymbols_iff : table.hasSymbols = true ↔ ∃ name, Marks entries name
  /-- A walk over what is offered stops once at every public symbol of a marked name that is not
  suppressed, and then nowhere for ever after. -/
  walks : ∃ stops : List Nat,
    (∀ moves, ((Walk.start table table.interface).after moves).next.1 = stops[moves]?) ∧
    stops.Nodup ∧
    ∀ place, place ∈ stops ↔ ∃ symbol, table.symbol? place = some symbol ∧
      symbol.isSuppressed = false ∧ symbol.isPublic = true ∧ Marks entries symbol.name

/-- What markers do to the tables of entries. -/
structure MarksExports (entries : List Entry) (flavor : Flavor) (suppresses : Symbol → Bool) : Prop where
  /-- Only two markers of a kernel for one name are an error. -/
  fails_iff : (∃ error, ofEntries entries flavor suppresses = .error error) ↔
    flavor.isKernel = true ∧ MarksTwice entries
  /-- In a kernel they tell the exports. -/
  exports : flavor.isKernel = true → ∀ table, ofEntries entries flavor suppresses = .ok table →
    table.HasExportsOf entries
  /-- In other binaries they count as symbols like all entries of their type, and nothing is exported. -/
  ordinary : flavor.isKernel = false → ∀ table, ofEntries entries flavor suppresses = .ok table →
    List.Forall₂ (Entry.Gives suppresses)
        (entries.filter fun entry => entry.name ≠ "" ∧ entry.HasKeptType) table.symbols.toList ∧
      ∀ place symbol, table.symbol? place = some symbol → symbol.isExported = false

variable {entries : List Entry} {flavor : Flavor} {suppresses : Symbol → Bool} {table : Table}

/-- The names that are marked in a kernel are those for which there is a marker. -/
theorem mem_markersOf_iff (name : String) :
    name ∈ markersOf flavor entries ↔ flavor.isKernel = true ∧ Marks entries name := by
  simp only [markersOf, List.mem_filterMap, Entry.marker?_eq_some_iff, Marks]
  exact ⟨fun ⟨entry, given, kernel, named⟩ => ⟨kernel, entry, given, named⟩,
    fun ⟨kernel, entry, given, named⟩ => ⟨entry, given, kernel, named⟩⟩

/-- In a kernel no name is marked twice exactly if no two entries are markers for one name. -/
theorem nodup_markersOf_iff (kernel : flavor.isKernel = true) :
    (markersOf flavor entries).Nodup ↔ ¬MarksTwice entries := by
  rw [markersOf, List.Nodup, List.pairwise_filterMap, List.pairwise_iff_getElem]
  simp only [Entry.marker?_eq_some_iff, kernel, true_and]
  constructor
  · rintro apart ⟨name, one, other, before, oneMarks, otherMarks⟩
    obtain ⟨oneEntry, oneHeld, oneNamed⟩ := Option.map_eq_some_iff.mp oneMarks
    obtain ⟨otherEntry, otherHeld, otherNamed⟩ := Option.map_eq_some_iff.mp otherMarks
    obtain ⟨oneInside, rfl⟩ := List.getElem?_eq_some_iff.mp oneHeld
    obtain ⟨otherInside, rfl⟩ := List.getElem?_eq_some_iff.mp otherHeld
    exact apart one other oneInside otherInside before name oneNamed name otherNamed rfl
  · rintro once one other oneInside otherInside before name oneNamed _ otherNamed rfl
    refine once ⟨name, one, other, before, ?_, ?_⟩
    · rw [List.getElem?_eq_getElem oneInside, Option.map_some, oneNamed]
    · rw [List.getElem?_eq_getElem otherInside, Option.map_some, otherNamed]

/-- In other binaries no names are marked. -/
theorem markersOf_eq_nil (noKernel : flavor.isKernel = false) : markersOf flavor entries = [] := by
  refine List.eq_nil_iff_forall_not_mem.mpr fun name member => ?_
  rw [mem_markersOf_iff, noKernel] at member
  exact Bool.false_ne_true member.1

/-- No table can be made exactly if some name is marked twice. -/
theorem exists_error_iff :
    (∃ error, ofEntries entries flavor suppresses = .error error) ↔
      ¬(markersOf flavor entries).Nodup := by
  constructor
  · rintro ⟨error, failed⟩ distinct
    rw [ofEntries_of_nodup suppresses distinct] at failed
    contradiction
  · intro repeated
    obtain ⟨name, fails⟩ := exists_ofEntries_eq_error repeated
    exact ⟨_, fails suppresses⟩

/-- A symbol of a table is exported exactly if it is public and its name is marked. -/
theorem isExported_iff_of_ofEntries (made : ofEntries entries flavor suppresses = .ok table) {place : Nat}
    {symbol : Symbol} (held : table.symbol? place = some symbol) :
    symbol.isExported = true ↔ symbol.isPublic = true ∧ symbol.name ∈ markersOf flavor entries := by
  obtain ⟨entry, _, _, rfl⟩ := exists_recorded_of_symbol? made held
  exact Entry.isExported_recorded_iff _ suppresses entry

/-- The interface of a kernel accepts exactly the public symbols that are exported. -/
theorem accepts_interface_iff (kernel : table.flavor.isKernel = true) (symbol : Symbol) :
    table.interface.accepts symbol = true ↔ symbol.isPublic = true ∧ symbol.isExported = true := by
  rw [interface, if_pos kernel]
  simp [Selection.accepts, Selection.grants]

/-- The table of a kernel has the exports that its entries mark. -/
theorem hasExportsOf_of_ofEntries (made : ofEntries entries flavor suppresses = .ok table)
    (kernel : flavor.isKernel = true) : table.HasExportsOf entries := by
  have isKernel : table.flavor.isKernel = true := by
    obtain ⟨_, rfl⟩ := eq_of_ofEntries made
    exact kernel
  have marked (name : String) : name ∈ markersOf flavor entries ↔ Marks entries name :=
    (mem_markersOf_iff name).trans (and_iff_right kernel)
  have exported (place : Nat) (symbol : Symbol) (held : table.symbol? place = some symbol) :
      symbol.isExported = true ↔ symbol.isPublic = true ∧ Marks entries symbol.name :=
    (isExported_iff_of_ofEntries made held).trans (and_congr_right' (marked symbol.name))
  constructor
  case no_marker =>
    intro place symbol held name named
    obtain ⟨entry, _, counts, rfl⟩ := exists_recorded_of_symbol? made held
    rw [Entry.name_recorded] at named
    refine counts.2.1 ⟨kernel, ?_⟩
    rw [named, String.toList_append]
    exact List.prefix_append _ _
  case isExported_iff => exact exported
  case hasSymbols_iff =>
    have offered : table.hasSymbols = !(markersOf flavor entries).isEmpty := by
      rw [hasSymbols, if_pos isKernel]
      obtain ⟨_, rfl⟩ := eq_of_ofEntries made
      rfl
    rw [offered, Bool.not_eq_true', List.isEmpty_eq_false_iff_exists_mem]
    exact exists_congr marked
  case walks =>
    have lists := listsUnsuppressed_of_ofEntries made
    refine ⟨table.select table.interface, fun moves => (Walk.peek?_after_start _ _ moves).2,
      nodup_select lists _, fun place => (mem_select_iff lists _ place).trans ?_⟩
    refine exists_congr fun symbol => and_congr_right fun held => and_congr_right fun _ => ?_
    rw [accepts_interface_iff isKernel, exported place symbol held, and_self_left]

/-- The names of markers mean something in a kernel only. There, making a table fails exactly if a marker
comes twice, markers are no symbols, and the public symbols that they name are the exports. -/
theorem marksExports (entries : List Entry) (flavor : Flavor) (suppresses : Symbol → Bool) :
    MarksExports entries flavor suppresses := by
  constructor
  case fails_iff =>
    rw [exists_error_iff]
    cases kernel : flavor.isKernel with
    | true => rw [nodup_markersOf_iff kernel, not_not, and_iff_right rfl]
    | false => simp [markersOf_eq_nil kernel]
  case exports => exact fun kernel table made => hasExportsOf_of_ofEntries made kernel
  case ordinary =>
    intro noKernel table made
    refine ⟨?_, fun place symbol held => ?_⟩
    · have counts (entry : Entry) :
          decide (entry.IsSymbol flavor) = decide (entry.name ≠ "" ∧ entry.HasKeptType) := by
        simp [Entry.IsSymbol, Entry.IsMarker, noKernel]
      simpa only [counts] using gives_of_ofEntries made
    · rw [← Bool.not_eq_true, isExported_iff_of_ofEntries made held, markersOf_eq_nil noKernel]
      simp

/-- Entries of a kernel: two markers, of which one stands before the symbols of its name and one names
nothing, a symbol of a marked name that is local, and a public symbol that is not marked. -/
def kernelEntries : List Entry := [
  { index := 1, name := "__ksymtab_start", typeCode := 1, value := 0x2000 },
  { index := 2, name := "start", typeCode := 2, value := 0x1000 },
  { index := 3, name := "start", typeCode := 2, value := 0x1100, bindingCode := 0 },
  { index := 4, name := "halt", typeCode := 2, value := 0x1200 },
  { index := 5, name := "__ksymtab_lost", typeCode := 1, value := 0x2008 }]

-- Only the public symbol of a marked name is exported. In another binary the markers are symbols.
example :
    let exported (isKernel : Bool) :=
      (ofEntries kernelEntries { isKernel := isKernel } fun _ => false).map fun table =>
        table.symbols.toList.map Symbol.isExported
    (exported true).toOption = some [true, false, false] ∧
      (exported false).toOption = some [false, false, false, false, false] := by
  decide +kernel

end Table

end Abiscope.Symbol
