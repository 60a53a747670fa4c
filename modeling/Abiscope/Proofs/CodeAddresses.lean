import Abiscope.Proofs.AliasClasses

/-!
# Functions by the address of their code

Where functions are reached through descriptors, the descriptor of a function and its code are two symbols,
the second one named like the first behind a dot, and both lead to the address of the code. One symbol is
kept for each address. It is the first function that comes with the address, until the same name without the
dot comes along and displaces it.

So only the plain form of the very name that is kept has an effect. If every dotted name at an address has
its plain form there, the address leads to a plain name in whatever order the entries come. If one of them
has not, it only needs to come first, and the plain names of others do not displace it.
-/

namespace Abiscope.Symbol

/-- The name starts with a dot. -/
def IsDotted (name : String) : Prop := ".".toList <+: name.toList

instance (name : String) : Decidable (IsDotted name) := inferInstanceAs (Decidable (_ <+: _))

/-- A name starts with a dot if it is another one behind a dot. -/
theorem isDotted_iff (name : String) : IsDotted name ↔ ∃ plain, name = "." ++ plain := by
  constructor
  · rintro ⟨rest, opens⟩
    refine ⟨String.ofList rest, String.toList_injective ?_⟩
    rw [String.toList_append]
    exact opens.symm.trans (congrArg _ String.toList_ofList.symm)
  · rintro ⟨plain, rfl⟩
    rw [IsDotted, String.toList_append]
    exact List.prefix_append _ _

/-- A name with a further dot before it is another one. -/
theorem ne_dot_append (name : String) : name ≠ "." ++ name := by
  intro same
  have lengths := congrArg (fun text : String => text.toList.length) same
  simp at lengths

/-- The entry is a function that is defined, is not common and has its code at an address, which is its
value if nothing else is said. -/
def Entry.IsFunctionAt (address : Address) (entry : Entry) : Prop :=
  (entry.typeCode = 2 ∨ entry.typeCode = 10) ∧ entry.place ≠ .undefined ∧ entry.place ≠ .common ∧
    (⟨entry.codeAddress.getD entry.value⟩ : Address) = address

instance (address : Address) (entry : Entry) : Decidable (entry.IsFunctionAt address) :=
  inferInstanceAs (Decidable (_ ∧ _ ∧ _ ∧ _))

/-- An entry is a function at an address exactly if its symbol has an address, is a function and the address
of its code is that one. -/
theorem Entry.isFunctionAt_iff (address : Address) (entry : Entry) :
    entry.IsFunctionAt address ↔
      (entry.toSymbol.address.isSome && entry.toSymbol.isFunction) = true ∧
        (⟨entry.codeAddress.getD entry.value⟩ : Address) = address := by
  have function : entry.toSymbol.isFunction = true ↔ entry.typeCode = 2 ∨ entry.typeCode = 10 := by
    obtain ⟨function, indirect, _, _⟩ := Entry.ofCode_eq_iff entry.typeCode
    rw [← function, ← indirect]
    change (Kind.ofCode entry.typeCode).isFunction = true ↔ _
    cases Kind.ofCode entry.typeCode <;> simp [Kind.isFunction]
  have placed : entry.toSymbol.address.isSome = true ↔
      entry.place ≠ .undefined ∧ entry.place ≠ .common := by
    rw [Table.isSome_address_toSymbol]
    simp [Entry.toSymbol]
  rw [Entry.IsFunctionAt, Bool.and_eq_true, function, placed]
  tauto

namespace Table

/-! ## Which name is kept -/

/-- The name that is kept in the end if a name is kept and others come along. -/
def lastHolder (held : String) (names : List String) : String :=
  names.foldl (fun held name => if displaces name held then name else held) held

/-- What is kept of some names is kept against those that come behind them. -/
theorem lastHolder_append (held : String) (before behind : List String) :
    lastHolder held (before ++ behind) = lastHolder (lastHolder held before) behind :=
  List.foldl_append

/-- The name that is kept in the end, if there is any. -/
def holder? (names : List String) : Option String :=
  names.head?.map fun first => lastHolder first names.tail

/-- A further name is kept if it is the first one or displaces the one that is kept. -/
theorem holder?_append (names : List String) (name : String) :
    holder? (names ++ [name]) = some
      ((holder? names).elim name fun held => if displaces name held then name else held) := by
  cases names with
  | nil => rfl
  | cons first rest => exact congrArg some (lastHolder_append first rest [name])

/-- A name is displaced by its plain form. -/
theorem displaces_iff (name held : String) : displaces name held = true ↔ held = "." ++ name :=
  beq_iff_eq

/-- A name is kept while its plain form does not come along. -/
theorem lastHolder_eq_self {held : String} {names : List String}
    (stays : ∀ name ∈ names, held ≠ "." ++ name) : lastHolder held names = held := by
  induction names with
  | nil => rfl
  | cons name rest inductionHypothesis =>
    rw [lastHolder, List.foldl_cons, if_neg (mt (displaces_iff name held).mp (stays name List.mem_cons_self))]
    exact inductionHypothesis fun other member => stays other (List.mem_cons_of_mem name member)

/-- A name without a dot is kept. -/
theorem lastHolder_of_plain {held : String} (plain : ¬IsDotted held) (names : List String) :
    lastHolder held names = held :=
  lastHolder_eq_self fun name _ same => plain ((isDotted_iff held).mpr ⟨name, same⟩)

/-- A dotted name is displaced the first time that its plain form comes along. -/
theorem lastHolder_dot_append {plain : String} {before : List String} (new : plain ∉ before)
    (behind : List String) :
    lastHolder ("." ++ plain) (before ++ plain :: behind) = lastHolder plain behind := by
  have kept : lastHolder ("." ++ plain) before = "." ++ plain := by
    refine lastHolder_eq_self fun name member same => new ?_
    rwa [(String.append_right_inj _).mp same]
  rw [lastHolder_append, kept, lastHolder, List.foldl_cons,
    if_pos ((displaces_iff plain ("." ++ plain)).mpr rfl)]
  rfl

/-- If every dotted name has its plain form among the names, a plain name is kept in the end. -/
theorem not_isDotted_holder {names : List String} {held : String} (kept : holder? names = some held)
    (paired : ∀ name ∈ names, IsDotted name → ∃ plain ∈ names, ¬IsDotted plain ∧ name = "." ++ plain) :
    ¬IsDotted held := by
  obtain ⟨first, head, rfl⟩ := Option.map_eq_some_iff.mp kept
  obtain ⟨rest, rfl⟩ := List.head?_eq_some_iff.mp head
  by_cases dotted : IsDotted first
  · obtain ⟨plain, member, isPlain, rfl⟩ := paired first List.mem_cons_self dotted
    have later : plain ∈ rest := (List.mem_cons.mp member).resolve_left (ne_dot_append plain)
    obtain ⟨before, behind, rfl, new⟩ := List.eq_append_cons_of_mem later
    rwa [List.tail_cons, lastHolder_dot_append new, lastHolder_of_plain isPlain]
  · rwa [lastHolder_of_plain dotted]

/-- A dotted name is kept in the end if one comes first whose plain form comes behind all other names, if at
all, and is dotted then. -/
theorem isDotted_lastHolder {plain : String} {names last : List String}
    (absent : plain ∉ names) (only : ∀ name ∈ last, name = plain)
    (unpaired : plain ∈ last → IsDotted plain) :
    IsDotted (lastHolder ("." ++ plain) (names ++ last)) := by
  cases last with
  | nil =>
    rw [List.append_nil, lastHolder_eq_self]
    · exact (isDotted_iff _).mpr ⟨plain, rfl⟩
    · rintro name member same
      exact absent ((String.append_right_inj _).mp same ▸ member)
  | cons name rest =>
    obtain rfl := only name List.mem_cons_self
    rw [lastHolder_dot_append absent, lastHolder_eq_self]
    · exact unpaired List.mem_cons_self
    · intro other member same
      rw [only other (List.mem_cons_of_mem name member)] at same
      exact ne_dot_append name same

/-! ## The index of code addresses -/

variable {entries : List Entry} {flavor : Flavor} {suppresses : Symbol → Bool} {table : Table}
  {address : Address}

/-- The names of the functions that have their code at an address. -/
def namesAt (address : Address) (entries : List Entry) : List String :=
  (entries.filter fun entry => entry.IsFunctionAt address).map Entry.name

/-- A further entry adds its name, if it is a function at the address. -/
theorem namesAt_append (address : Address) (entries : List Entry) (entry : Entry) :
    namesAt address (entries ++ [entry]) =
      if entry.IsFunctionAt address then namesAt address entries ++ [entry.name]
      else namesAt address entries := by
  by_cases here : entry.IsFunctionAt address <;> simp [namesAt, here]

/-- Recording an address does not change what is kept for others. -/
theorem get?_addCodeAddress_of_ne (symbols : Array Symbol) (index : Std.TreeMap Address Nat) (id : Nat)
    {recorded : Address} (differs : recorded ≠ address) :
    (addCodeAddress symbols index id recorded).get? address = index.get? address := by
  have inserted : (index.insert recorded id).get? address = index.get? address := by
    rw [Std.TreeMap.get?_eq_getElem?, Std.TreeMap.getElem?_insert,
      if_neg (mt Std.LawfulEqOrd.compare_eq_iff_eq.mp differs), Std.TreeMap.get?_eq_getElem?]
  rw [addCodeAddress]
  split
  case h_1 => exact inserted
  case h_2 =>
    dsimp only
    split
    case isTrue => exact inserted
    case isFalse => rfl

/-- A symbol is kept for its code address if none is, or if its name displaces the one that is kept. -/
theorem get?_addCodeAddress (symbols : Array Symbol) (index : Std.TreeMap Address Nat) (id : Nat) :
    (addCodeAddress symbols index id address).get? address = some
      ((index.get? address).elim id fun holder =>
        if displaces ((symbols[id]?.map Symbol.name).getD "")
          ((symbols[holder]?.map Symbol.name).getD "") then id else holder) := by
  have inserted : (index.insert address id).get? address = some id := by
    rw [Std.TreeMap.get?_eq_getElem?, Std.TreeMap.getElem?_insert_self]
  rw [addCodeAddress]
  split
  case h_1 free => rw [inserted, free, Option.elim_none]
  case h_2 holder taken =>
    rw [taken, Option.elim_some]
    dsimp only
    split
    case isTrue => exact inserted
    case isFalse => exact taken

/-- The names of the symbols that were added. -/
theorem map_name_symbols_filled (flavor : Flavor) (suppresses : Symbol → Bool) (entries : List Entry)
    (place : Nat) : (filled flavor suppresses entries).symbols[place]?.map Symbol.name =
      entries[place]?.map Entry.name := by
  rw [symbols_filled, List.getElem?_toArray, List.getElem?_map, Option.map_map]
  rfl

/-- A function is recorded under the address of its code, and no other symbol is. -/
theorem codeAddresses_filled_append (descriptors : flavor.usesDescriptors = true)
    (entries : List Entry) (entry : Entry) :
    (filled flavor suppresses (entries ++ [entry])).codeAddresses =
      if entry.toSymbol.address.isSome && entry.toSymbol.isFunction then
        addCodeAddress (filled flavor suppresses (entries ++ [entry])).symbols
          (filled flavor suppresses entries).codeAddresses entries.length
          ⟨entry.codeAddress.getD entry.value⟩
      else (filled flavor suppresses entries).codeAddresses := by
  have uses : (filled flavor suppresses entries).flavor.usesDescriptors = true := by
    rw [(filled_untouched flavor suppresses entries).1, descriptors]
  rw [filled_append, addEntry, uses, Bool.true_and, size_symbols_filled]

/-- What stands for an address keeps its name when a further entry comes. -/
theorem map_name_append {held : Option Nat} {kept : Option String} (entry : Entry)
    (stands : held.map (fun place => entries[place]?.map Entry.name) = kept.map some) :
    held.map (fun place => (entries ++ [entry])[place]?.map Entry.name) = kept.map some := by
  cases held with
  | none => exact stands
  | some place =>
    obtain ⟨name, _, named⟩ := Option.map_eq_some_iff.mp stands.symm
    obtain ⟨other, placed, _⟩ := Option.map_eq_some_iff.mp named.symm
    rw [← stands, Option.map_some, Option.map_some,
      List.getElem?_append_left (List.getElem?_eq_some_iff.mp placed).1]

/-- For an address stands the symbol whose name is kept, if there are functions at the address. -/
theorem get?_codeAddresses_filled (descriptors : flavor.usesDescriptors = true)
    (suppresses : Symbol → Bool) (address : Address) (entries : List Entry) :
    ((filled flavor suppresses entries).codeAddresses.get? address).map
        (fun place => entries[place]?.map Entry.name) =
      (holder? (namesAt address entries)).map some := by
  induction entries using List.reverseRecOn with
  | nil => rfl
  | append_singleton entries entry inductionHypothesis =>
    have before := map_name_append entry inductionHypothesis
    rw [codeAddresses_filled_append descriptors, namesAt_append]
    by_cases here : entry.IsFunctionAt address
    · obtain ⟨function, rfl⟩ := (Entry.isFunctionAt_iff address entry).mp here
      rw [if_pos function, if_pos here, get?_addCodeAddress, holder?_append, map_name_symbols_filled,
        List.getElem?_concat_length]
      cases held : (filled flavor suppresses entries).codeAddresses.get?
          ⟨entry.codeAddress.getD entry.value⟩ with
      | none =>
        rw [held, Option.map_none] at before
        rw [Option.map_eq_none_iff.mp before.symm, Option.elim_none, Option.elim_none, Option.map_some,
          Option.map_some, List.getElem?_concat_length, Option.map_some]
      | some place =>
        rw [held, Option.map_some] at before
        obtain ⟨name, kept, named⟩ := Option.map_eq_some_iff.mp before.symm
        rw [kept, Option.elim_some, Option.elim_some, map_name_symbols_filled, ← named, Option.map_some,
          Option.map_some, Option.getD_some, Option.getD_some, Option.map_some]
        split
        case isTrue => rw [List.getElem?_concat_length, Option.map_some]
        case isFalse => rw [← named]
    · rw [if_neg here, ← before]
      split
      case isTrue function =>
        have elsewhere : (⟨entry.codeAddress.getD entry.value⟩ : Address) ≠ address := fun same =>
          here ((Entry.isFunctionAt_iff address entry).mpr ⟨function, same⟩)
        rw [get?_addCodeAddress_of_ne _ _ _ elsewhere]
      case isFalse => rfl

/-! ## Orders of entries -/

/-- An address leads to a symbol whose name does not start with a dot. -/
def LeadsToPlain (table : Table) (address : Address) : Prop :=
  ∃ place symbol, table.findAddress address = some place ∧ table.symbol? place = some symbol ∧
    ¬IsDotted symbol.name

/-- The names at an address are those of the functions there that count as symbols. -/
theorem mem_namesAt_filter (flavor : Flavor) (address : Address) (entries : List Entry) (name : String) :
    name ∈ namesAt address (entries.filter fun entry => entry.IsSymbol flavor) ↔
      ∃ entry ∈ entries, entry.IsSymbol flavor ∧ entry.IsFunctionAt address ∧ entry.name = name := by
  simp only [namesAt, List.mem_map, List.mem_filter, decide_eq_true_eq, and_assoc]

/-- Where functions are reached through descriptors, an address leads to a symbol of the name that is
kept. -/
theorem exists_findAddress_of_holder? (made : ofEntries entries flavor suppresses = .ok table)
    (descriptors : flavor.usesDescriptors = true) {name : String}
    (kept : holder? (namesAt address (entries.filter fun entry => entry.IsSymbol flavor)) = some name) :
    ∃ place symbol, table.findAddress address = some place ∧ table.symbol? place = some symbol ∧
      symbol.name = name := by
  have stands := get?_codeAddresses_filled descriptors suppresses address
    (entries.filter fun entry => entry.IsSymbol flavor)
  rw [kept, Option.map_some] at stands
  obtain ⟨place, found, named⟩ := Option.map_eq_some_iff.mp stands
  obtain ⟨entry, held, rfl⟩ := Option.map_eq_some_iff.mp named
  refine ⟨place, Entry.recorded (markersOf flavor entries) suppresses entry, ?_, ?_,
    Entry.name_recorded _ suppresses entry⟩
  · obtain ⟨_, rfl⟩ := eq_of_ofEntries made
    rw [findAddress, found]
  · rw [symbol?_of_ofEntries made, held, Option.map_some]

/-- An address leads to a plain name exactly if the name that is kept is one. -/
theorem leadsToPlain_iff (made : ofEntries entries flavor suppresses = .ok table)
    (descriptors : flavor.usesDescriptors = true) {name : String}
    (kept : holder? (namesAt address (entries.filter fun entry => entry.IsSymbol flavor)) = some name) :
    table.LeadsToPlain address ↔ ¬IsDotted name := by
  obtain ⟨place, symbol, found, held, rfl⟩ := exists_findAddress_of_holder? made descriptors kept
  constructor
  · rintro ⟨other, otherSymbol, otherFound, otherHeld, plain⟩
    obtain rfl := Option.some.inj (found.symm.trans otherFound)
    obtain rfl := Option.some.inj (held.symm.trans otherHeld)
    exact plain
  · exact fun plain => ⟨place, symbol, found, held, plain⟩

/-- Entries that make a table make one in any other order. -/
theorem exists_ofEntries_of_perm (made : ofEntries entries flavor suppresses = .ok table)
    {order : List Entry} (same : order.Perm entries) :
    ∃ table, ofEntries order flavor suppresses = .ok table :=
  ⟨_, ofEntries_of_nodup suppresses
    ((same.filterMap (marker? flavor)).nodup_iff.mpr (eq_of_ofEntries made).1)⟩

/-- The entries with one of them first, and those of some name last. -/
def reordered (entries : List Entry) (first : Entry) (last : String) : List Entry :=
  first :: ((entries.erase first).filter (fun entry => entry.name != last) ++
    (entries.erase first).filter fun entry => !(entry.name != last))

/-- Entries that are reordered are the same ones. -/
theorem reordered_perm {first : Entry} (given : first ∈ entries) (last : String) :
    (reordered entries first last).Perm entries :=
  ((List.filter_append_perm _ _).cons first).trans (List.perm_cons_erase given).symm

/-- A function with a dotted name comes first, and all those of its plain form come last. If the plain form
is not at the address, or dotted again, then a dotted name is kept in the end. -/
theorem exists_holder?_reordered {first : Entry} (counts : first.IsSymbol flavor)
    (here : first.IsFunctionAt address) {plain : String} (named : first.name = "." ++ plain)
    (unpaired : ∀ other ∈ entries, other.IsSymbol flavor → other.IsFunctionAt address →
      other.name = plain → IsDotted plain) :
    ∃ name, holder? (namesAt address
        ((reordered entries first plain).filter fun entry => entry.IsSymbol flavor)) = some name ∧
      IsDotted name := by
  have names : namesAt address
      ((reordered entries first plain).filter fun entry => entry.IsSymbol flavor) =
      ("." ++ plain) ::
        (namesAt address (((entries.erase first).filter fun entry => entry.name != plain).filter
            fun entry => entry.IsSymbol flavor) ++
          namesAt address (((entries.erase first).filter fun entry => !(entry.name != plain)).filter
            fun entry => entry.IsSymbol flavor)) := by
    rw [reordered, List.filter_cons_of_pos (by simpa using counts), List.filter_append, namesAt,
      List.filter_cons_of_pos (by simpa using here), List.filter_append, List.map_cons, List.map_append,
      named]
    rfl
  rw [names]
  refine ⟨_, rfl, isDotted_lastHolder ?_ ?_ ?_⟩
  · rw [mem_namesAt_filter]
    rintro ⟨entry, given, _, _, same⟩
    exact bne_iff_ne.mp (List.mem_filter.mp given).2 same
  · intro name member
    obtain ⟨entry, given, _, _, rfl⟩ := (mem_namesAt_filter _ _ _ name).mp member
    simpa using (List.mem_filter.mp given).2
  · intro member
    obtain ⟨entry, given, entryCounts, entryHere, same⟩ := (mem_namesAt_filter _ _ _ plain).mp member
    exact unpaired entry (List.mem_of_mem_erase (List.mem_filter.mp given).1) entryCounts entryHere same

/-- An address at which there is a function leads to a plain name in every order of the entries exactly if
every dotted name there has its plain form there.

Proof: if every dotted name has its plain form, that one displaces it sooner or later, and is kept itself. If
one has not, the order in which it comes first and its plain form, dotted itself, comes last has a dotted
name in the end. -/
theorem leadsToPlain_perm_iff (descriptors : flavor.usesDescriptors = true)
    (made : ofEntries entries flavor suppresses = .ok table)
    (reached : ∃ entry ∈ entries, entry.IsSymbol flavor ∧ entry.IsFunctionAt address) :
    (∀ order : List Entry, order.Perm entries → ∃ table, ofEntries order flavor suppresses = .ok table ∧
        table.LeadsToPlain address) ↔
      ∀ entry ∈ entries, entry.IsSymbol flavor → entry.IsFunctionAt address → IsDotted entry.name →
        ∃ other ∈ entries, other.IsSymbol flavor ∧ other.IsFunctionAt address ∧ ¬IsDotted other.name ∧
          entry.name = "." ++ other.name := by
  constructor
  · intro leads entry given counts here dotted
    obtain ⟨plain, named⟩ := (isDotted_iff _).mp dotted
    by_contra unpaired
    obtain ⟨name, kept, isDotted⟩ := exists_holder?_reordered counts here named
      fun other otherGiven otherCounts otherHere otherNamed => by_contra fun isPlain =>
        unpaired ⟨other, otherGiven, otherCounts, otherHere, otherNamed ▸ isPlain, otherNamed ▸ named⟩
    obtain ⟨reorderedTable, reorderedMade, leadsToPlain⟩ := leads _ (reordered_perm given plain)
    exact (leadsToPlain_iff reorderedMade descriptors kept).mp leadsToPlain isDotted
  · intro paired order same
    obtain ⟨orderTable, orderMade⟩ := exists_ofEntries_of_perm made same
    obtain ⟨entry, given, counts, here⟩ := reached
    have member := (mem_namesAt_filter flavor address order entry.name).mpr
      ⟨entry, same.mem_iff.mpr given, counts, here, rfl⟩
    obtain ⟨first, rest, names⟩ := List.exists_cons_of_ne_nil (List.ne_nil_of_mem member)
    have kept : holder? (namesAt address (order.filter fun entry => entry.IsSymbol flavor)) =
        some (lastHolder first rest) := by rw [names]; rfl
    refine ⟨orderTable, orderMade, (leadsToPlain_iff orderMade descriptors kept).mpr
      (not_isDotted_holder kept fun name nameMember dotted => ?_)⟩
    obtain ⟨one, oneGiven, oneCounts, oneHere, rfl⟩ := (mem_namesAt_filter _ _ _ name).mp nameMember
    obtain ⟨other, otherGiven, otherCounts, otherHere, isPlain, named⟩ :=
      paired one (same.mem_iff.mp oneGiven) oneCounts oneHere dotted
    exact ⟨other.name, (mem_namesAt_filter _ _ _ other.name).mpr
      ⟨other, same.mem_iff.mpr otherGiven, otherCounts, otherHere, rfl⟩, isPlain, named⟩

/-- The code of a function, a second function that has the same code, and the descriptor of the first. -/
def descriptorEntries : List Entry := [
  { index := 1, name := ".start", typeCode := 2, value := 0x1000 },
  { index := 2, name := "begin", typeCode := 10, value := 0x20010, codeAddress := some 0x1000 },
  { index := 3, name := "start", typeCode := 2, value := 0x20000, codeAddress := some 0x1000 }]

/-- The address of the code leads to a plain name in every order of the three. -/
theorem leadsToPlain_descriptorEntries :
    (ofEntries descriptorEntries { usesDescriptors := true } fun _ => false).toBool = true ∧
      (∃ entry ∈ descriptorEntries, entry.IsSymbol { usesDescriptors := true } ∧
        entry.IsFunctionAt ⟨0x1000⟩) ∧
      ∀ order : List Entry, order.Perm descriptorEntries → ∃ table,
        ofEntries order { usesDescriptors := true } (fun _ => false) = .ok table ∧
          table.LeadsToPlain ⟨0x1000⟩ := by
  have ok : (ofEntries descriptorEntries { usesDescriptors := true } fun _ => false).toBool = true := by
    decide +kernel
  have reached : ∃ entry ∈ descriptorEntries, entry.IsSymbol { usesDescriptors := true } ∧
      entry.IsFunctionAt ⟨0x1000⟩ := by
    decide +kernel
  obtain ⟨table, made⟩ := exists_ofEntries_eq_ok ok
  exact ⟨ok, reached, (leadsToPlain_perm_iff rfl made reached).mpr (by decide +kernel)⟩

/-- The code of a function without its descriptor, and behind it the descriptor and the code of another
function at the same address. -/
def strayEntries : List Entry := [
  { index := 1, name := ".halt", typeCode := 2, value := 0x1000 },
  { index := 2, name := "start", typeCode := 2, value := 0x20000, codeAddress := some 0x1000 },
  { index := 3, name := ".start", typeCode := 2, value := 0x1000 }]

/-- Although a function is at the address of its code under its plain and its dotted name, the address leads
to a dotted name. -/
theorem stray_not_leadsToPlain :
    ¬IsDotted "start" ∧
      (∃ entry ∈ strayEntries, entry.name = "start" ∧ entry.IsFunctionAt ⟨0x1000⟩) ∧
      (∃ entry ∈ strayEntries, entry.name = "." ++ "start" ∧ entry.IsFunctionAt ⟨0x1000⟩) ∧
      ∃ table, ofEntries strayEntries { usesDescriptors := true } (fun _ => false) = .ok table ∧
        ¬table.LeadsToPlain ⟨0x1000⟩ := by
  have ok : (ofEntries strayEntries { usesDescriptors := true } fun _ => false).toBool = true := by
    decide +kernel
  have kept : holder? (namesAt ⟨0x1000⟩ (strayEntries.filter fun entry =>
      entry.IsSymbol { usesDescriptors := true })) = some ".halt" := by
    decide +kernel
  obtain ⟨table, made⟩ := exists_ofEntries_eq_ok ok
  refine ⟨by decide, by decide +kernel, by decide +kernel, table, made, fun plain => ?_⟩
  exact (leadsToPlain_iff made rfl kept).mp plain (by decide)

end Table

end Abiscope.Symbol
