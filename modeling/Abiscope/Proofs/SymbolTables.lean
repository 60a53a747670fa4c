import Abiscope.Proofs.ByteOrder
import Abiscope.Proofs.Drafts
import Abiscope.Symbol.Walk
import Mathlib.Data.List.Forall2

/-!
# What a symbol table holds, lists and finds

The symbols of a table are those of the entries that count as symbols, in the order of the entries. Entries
count if they have a name and are functions or variables, other than variables at absolute addresses and
markers of a kernel. The predicate that suppresses symbols decides what is listed and nothing else: a walk
over the table stops exactly once at every listed symbol that its selection accepts, in the order of the
bytes of the id strings, and a name is looked up among all symbols.

A walk skips ahead when it starts and after every move, so it always stands at a stop or behind the last one.
What lies ahead of it are therefore the remaining stops, of which every move takes the first.
-/

namespace Abiscope.Symbol

/-! ## Tables of entries -/

namespace Table

variable {entries : List Entry} {flavor : Flavor} {suppresses : Symbol → Bool} {table : Table}

/-- The table of entries that no error is found in. -/
theorem exists_ofEntries_eq_ok (ok : (ofEntries entries flavor suppresses).toBool = true) :
    ∃ table, ofEntries entries flavor suppresses = .ok table := by
  cases made : ofEntries entries flavor suppresses with
  | ok table => exact ⟨table, rfl⟩
  | error problem => rw [made] at ok; contradiction

/-- The symbols of a table are those of the entries that count, in the order of the entries. -/
theorem gives_of_ofEntries (made : ofEntries entries flavor suppresses = .ok table) :
    List.Forall₂ (Entry.Gives suppresses) (entries.filter fun entry => entry.IsSymbol flavor)
      table.symbols.toList := by
  obtain ⟨_, rfl⟩ := eq_of_ofEntries made
  exact List.forall₂_map_right_iff.mpr
    (List.forall₂_same.mpr fun entry _ => Entry.gives_recorded _ suppresses entry)

/-- At a place stands the symbol that is recorded for the entry that comes there among those that count. -/
theorem symbol?_of_ofEntries (made : ofEntries entries flavor suppresses = .ok table) (place : Nat) :
    table.symbol? place = (entries.filter fun entry => entry.IsSymbol flavor)[place]?.map
      (Entry.recorded (markersOf flavor entries) suppresses) := by
  obtain ⟨_, rfl⟩ := eq_of_ofEntries made
  rw [symbol?, ofSymbols, List.getElem?_toArray, List.getElem?_map]

/-- Every symbol of a table is recorded for an entry that counts. -/
theorem exists_recorded_of_symbol? (made : ofEntries entries flavor suppresses = .ok table) {place : Nat}
    {symbol : Symbol} (held : table.symbol? place = some symbol) :
    ∃ entry ∈ entries, entry.IsSymbol flavor ∧
      Entry.recorded (markersOf flavor entries) suppresses entry = symbol := by
  rw [symbol?_of_ofEntries made] at held
  obtain ⟨entry, kept, same⟩ := Option.map_eq_some_iff.mp held
  obtain ⟨given, counts⟩ := List.mem_filter.mp (List.mem_of_getElem? kept)
  exact ⟨entry, given, of_decide_eq_true counts, same⟩

/-- Every symbol of a table is the one of an entry. -/
theorem exists_gives_of_symbol? (made : ofEntries entries flavor suppresses = .ok table) {place : Nat}
    {symbol : Symbol} (held : table.symbol? place = some symbol) :
    ∃ entry ∈ entries, Entry.Gives suppresses entry symbol := by
  obtain ⟨entry, given, _, rfl⟩ := exists_recorded_of_symbol? made held
  exact ⟨entry, given, Entry.gives_recorded _ suppresses entry⟩

/-- A table of entries lists the symbols that are not suppressed. -/
theorem listsUnsuppressed_of_ofEntries (made : ofEntries entries flavor suppresses = .ok table) :
    table.ListsUnsuppressed := by
  obtain ⟨_, rfl⟩ := eq_of_ofEntries made
  exact listsUnsuppressed_ofSymbols _ Symbol.name

/-- Under a name stand the places of the symbols of that name. -/
theorem findName_of_ofEntries (made : ofEntries entries flavor suppresses = .ok table) (name : String) :
    table.findName name = placesOf (table.symbols.toList.map fun symbol => some symbol.name) name := by
  obtain ⟨_, rfl⟩ := eq_of_ofEntries made
  exact Groups.get_ofKeys _ _ name

/-! ## What is listed -/

/-- A listed place comes before another one if its id string has smaller bytes, or if it has the same id
string and is before it in the table. -/
def Precedes (table : Table) (one other : Nat) : Prop :=
  Text.bytes (idStringAt table.symbols one) < Text.bytes (idStringAt table.symbols other) ∨
    idStringAt table.symbols one = idStringAt table.symbols other ∧ one < other

/-- Items are in an order among those of the same key if the items of every key are. -/
theorem pairwise_of_forall_filter {α : Type} {keyOf : α → String} {before : α → α → Prop} {items : List α}
    (each : ∀ key, (items.filter fun item => keyOf item == key).Pairwise before) :
    items.Pairwise fun one other => keyOf one = keyOf other → before one other := by
  induction items with
  | nil => exact List.Pairwise.nil
  | cons item rest inductionHypothesis =>
    refine List.pairwise_cons.mpr ⟨fun other member same => ?_, inductionHypothesis fun key => ?_⟩
    · have own := each (keyOf item)
      simp only [List.filter_cons, beq_self_eq_true, if_true, List.pairwise_cons] at own
      exact own.1 other (List.mem_filter.mpr ⟨member, beq_iff_eq.mpr same.symm⟩)
    · exact (each key).sublist ((List.sublist_cons_self item rest).filter _)

/-- Ascending places stay so among those of one id string when they are sorted by id strings. -/
theorem pairwise_precedes_sortByIdString (table : Table) {places : List Nat}
    (held : ∀ place ∈ places, place < table.symbols.size) (ascending : places.Pairwise (· < ·)) :
    (sortByIdString table.symbols places).Pairwise table.Precedes := by
  have ties : (sortByIdString table.symbols places).Pairwise fun one other =>
      idStringAt table.symbols one = idStringAt table.symbols other → one < other := by
    refine pairwise_of_forall_filter fun id => ?_
    rw [filter_sortByIdString table.symbols places held]
    exact ascending.filter _
  refine (pairwise_sortByIdString table.symbols places held).imp₂ ?_ ties
  intro one other notAbove tie
  by_cases same : idStringAt table.symbols one = idStringAt table.symbols other
  · exact Or.inr ⟨same, tie same⟩
  · refine Or.inl ((Text.lt_iff_bytes_lt _ _).mp (String.not_le.mp fun notBelow => ?_))
    exact same (String.le_antisymm notAbove notBelow)

/-- Where unsuppressed symbols are listed, a selection selects exactly the accepted ones among them. -/
theorem mem_select_iff (lists : table.ListsUnsuppressed) (selection : Selection) (place : Nat) :
    place ∈ table.select selection ↔ ∃ symbol, table.symbol? place = some symbol ∧
      symbol.isSuppressed = false ∧ selection.accepts symbol = true := by
  rw [select, List.mem_filter, lists, (sortByIdString_perm table.symbols _ fun place member =>
    List.mem_range.mp (List.mem_filter.mp member).1).mem_iff, List.mem_filter, List.mem_range]
  cases held : table.symbol? place with
  | none => simp
  | some symbol =>
    have inside : place < table.symbols.size := (Array.getElem?_eq_some_iff.mp held).1
    simp [inside]

/-- Where unsuppressed symbols are listed, what is selected comes in ascending order. -/
theorem pairwise_select (lists : table.ListsUnsuppressed) (selection : Selection) :
    (table.select selection).Pairwise table.Precedes := by
  rw [select, lists]
  refine (pairwise_precedes_sortByIdString table (fun place member => ?_) ?_).filter _
  · exact List.mem_range.mp (List.mem_filter.mp member).1
  · exact List.pairwise_lt_range.filter _

/-- No place comes before itself. -/
theorem not_precedes_self (table : Table) (place : Nat) : ¬table.Precedes place place := by
  rintro (smaller | ⟨_, smaller⟩)
  · exact List.lt_irrefl _ smaller
  · exact Nat.lt_irrefl place smaller

/-- Where unsuppressed symbols are listed, nothing is selected twice. -/
theorem nodup_select (lists : table.ListsUnsuppressed) (selection : Selection) :
    (table.select selection).Nodup := by
  refine (pairwise_select lists selection).imp ?_
  rintro one other precedes rfl
  exact table.not_precedes_self one precedes

end Table

/-! ## Walks -/

namespace Walk

/-- A walk after some moves. -/
def after (walk : Walk) : Nat → Walk
  | 0 => walk
  | moves + 1 => (walk.after moves).next.2

/-- The stops that lie ahead. -/
def stops (walk : Walk) : List Nat := walk.rest.filter (stopsAt walk.table walk.selection)

/-- A walk stands at a stop, or behind the last one. -/
def Stands (walk : Walk) : Prop :=
  ∀ place ∈ walk.rest.head?, stopsAt walk.table walk.selection place = true

/-- Skipping ahead passes no stop. -/
theorem filter_skip (table : Table) (selection : Selection) (places : List Nat) :
    (skip table selection places).filter (stopsAt table selection) =
      places.filter (stopsAt table selection) := by
  induction places with
  | nil => rfl
  | cons place rest inductionHypothesis =>
    rw [skip, List.dropWhile_cons]
    cases stops : stopsAt table selection place with
    | true => rfl
    | false => exact inductionHypothesis.trans (by rw [List.filter_cons_of_neg (by simp [stops])])

/-- Having skipped ahead, a walk stands at a stop or behind the last one. -/
theorem stands_skip (table : Table) (selection : Selection) (places : List Nat) :
    Stands ⟨table, selection, skip table selection places⟩ := by
  intro place first
  have stopped := List.head?_dropWhile_not (fun place => !stopsAt table selection place) places
  rw [skip, Option.mem_def] at first
  rw [first] at stopped
  simpa using stopped

/-- What a walk shows is the first stop ahead. -/
theorem peek?_eq_head?_stops {walk : Walk} (stands : walk.Stands) : walk.peek? = walk.stops.head? := by
  rw [peek?, stops]
  cases ahead : walk.rest with
  | nil => rfl
  | cons place rest =>
    rw [List.filter_cons_of_pos (stands place (by rw [ahead]; rfl))]
    rfl

/-- A move takes the first of the stops ahead, and the walk stands again. -/
theorem stands_next {walk : Walk} (stands : walk.Stands) :
    walk.next.2.Stands ∧ walk.next.2.stops = walk.stops.tail := by
  rw [next]
  split
  case h_1 ended => exact ⟨stands, by rw [stops, ended]; rfl⟩
  case h_2 place rest ahead =>
    refine ⟨stands_skip _ _ rest, ?_⟩
    rw [stops, stops, filter_skip, ahead,
      List.filter_cons_of_pos (stands place (by rw [ahead]; rfl)), List.tail_cons]

/-- After some moves the stops ahead are those selected, without the first ones. -/
theorem stands_after_start (table : Table) (selection : Selection) (moves : Nat) :
    ((start table selection).after moves).Stands ∧
      ((start table selection).after moves).stops = (table.select selection).drop moves := by
  induction moves with
  | zero => exact ⟨stands_skip _ _ _, filter_skip _ _ _⟩
  | succ moves inductionHypothesis =>
    obtain ⟨stands, ahead⟩ := inductionHypothesis
    obtain ⟨standsAgain, rest⟩ := stands_next stands
    exact ⟨standsAgain, by rw [after, rest, ahead, List.tail_drop]⟩

/-- After some moves a walk shows, and gives, the next of the places that are selected. -/
theorem peek?_after_start (table : Table) (selection : Selection) (moves : Nat) :
    ((start table selection).after moves).peek? = (table.select selection)[moves]? ∧
      ((start table selection).after moves).next.1 = (table.select selection)[moves]? := by
  obtain ⟨stands, ahead⟩ := stands_after_start table selection moves
  rw [fst_next, peek?_eq_head?_stops stands, ahead, List.head?_drop]
  exact ⟨rfl, rfl⟩

end Walk

/-! ## The whole -/

namespace Table

/-- What a table holds, lists and finds, said of the entries that it was made of. -/
structure Reflects (table : Table) (entries : List Entry) (flavor : Flavor)
    (suppresses : Symbol → Bool) : Prop where
  /-- The symbols are those of the entries that count, in the order of the entries. -/
  holds : List.Forall₂ (Entry.Gives suppresses) (entries.filter fun entry => entry.IsSymbol flavor)
    table.symbols.toList
  /-- A walk stops at places one after the other, and then nowhere for ever after. What it shows is always
  what it gives next. -/
  walks : ∀ selection, ∃ stops : List Nat,
    (∀ moves, ((Walk.start table selection).after moves).peek? = stops[moves]? ∧
      ((Walk.start table selection).after moves).next.1 = stops[moves]?) ∧
    (∀ place, place ∈ stops ↔ ∃ symbol, table.symbol? place = some symbol ∧
      symbol.isSuppressed = false ∧ selection.accepts symbol = true) ∧
    stops.Nodup ∧ stops.Pairwise table.Precedes
  /-- Under a name stand the places of all symbols of that name, in the order of the table. -/
  finds : ∀ name, (table.findName name).Pairwise (· < ·) ∧
    ∀ place, place ∈ table.findName name ↔ (table.symbol? place).map Symbol.name = some name

/-- A table of entries holds exactly the symbols of the entries that count, its walks stop once at every
one of them that is neither suppressed nor refused, in the order of id strings, and names lead to all
symbols that have them. -/
theorem reflects_of_ofEntries {entries : List Entry} {flavor : Flavor} {suppresses : Symbol → Bool}
    {table : Table} (made : ofEntries entries flavor suppresses = .ok table) :
    table.Reflects entries flavor suppresses := by
  have lists := listsUnsuppressed_of_ofEntries made
  constructor
  case holds => exact gives_of_ofEntries made
  case walks =>
    intro selection
    exact ⟨table.select selection, Walk.peek?_after_start table selection, mem_select_iff lists selection,
      nodup_select lists selection, pairwise_select lists selection⟩
  case finds =>
    intro name
    rw [findName_of_ofEntries made]
    refine ⟨pairwise_placesOf _ name, fun place => ?_⟩
    rw [mem_placesOf, List.getElem?_map, Array.getElem?_toList, symbol?]
    cases table.symbols[place]? <;> simp

/-- Entries of a kernel module: one without a name, a name under which two functions go, the marker that
exports it, an absolute variable, and a function to suppress. -/
def moduleEntries : List Entry := [
  { index := 1, name := "", typeCode := 2, value := 0 },
  { index := 2, name := "start", typeCode := 2, value := 0x1000 },
  { index := 3, name := "__ksymtab_start", typeCode := 1, value := 0x2000 },
  { index := 4, name := "level", typeCode := 1, value := 7, place := .absolute },
  { index := 5, name := "halt", typeCode := 2, value := 0x1100 },
  { index := 6, name := "start", typeCode := 2, value := 0x1200, bindingCode := 0 },
  { index := 7, name := "probe", typeCode := 10, value := 0x1300 }]

/-- The table of the module. -/
theorem reflects_moduleEntries :
    ∃ table, ofEntries moduleEntries { isKernel := true } (fun symbol => symbol.name == "probe") =
        .ok table ∧
      table.Reflects moduleEntries { isKernel := true } (fun symbol => symbol.name == "probe") := by
  have ok : (ofEntries moduleEntries { isKernel := true }
      (fun symbol => symbol.name == "probe")).toBool = true := by
    decide +kernel
  obtain ⟨table, made⟩ := exists_ofEntries_eq_ok ok
  exact ⟨table, made, reflects_of_ofEntries made⟩

-- Four symbols are left, of which the last one is suppressed but can be looked up.
example :
    ((ofEntries moduleEntries { isKernel := true } (fun symbol => symbol.name == "probe")).map fun table =>
        (table.symbols.toList.map fun symbol => (symbol.name, symbol.isSuppressed),
          table.findName "probe")).toOption =
      some ([("start", false), ("halt", false), ("start", false), ("probe", true)], [3]) := by
  decide +kernel

end Table

end Abiscope.Symbol
