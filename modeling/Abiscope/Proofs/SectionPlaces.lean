import Abiscope.Proofs.AliasClasses
import Abiscope.Proofs.SymbolVersions

/-!
# Symbols of different sections

In an image that a linker has still to combine, the value of a symbol counts from the start of its section.
To tell symbols of different sections apart, the place of the section in the image is added. This does what
it is meant for where the sections lie side by side. A section without contents does not lie anywhere: it
takes no room, and what comes behind it begins at the same place. So the symbols of such a section get the
addresses of the next one's symbols, and the table takes them for aliases.

What follows says exactly when two symbols of different sections are told apart. It speaks of all images
that are read, whatever places and sizes their sections claim to have.
-/

namespace Abiscope

namespace Symbol.Table

variable {entries : List Entry} {flavor : Flavor} {suppresses : Symbol → Bool} {table : Table}

/-- Two symbols are told apart: they are recorded under different addresses, they are no aliases, and the
address of the first does not lead to the second. -/
structure TellsApart (table : Table) (one other : Nat) : Prop where
  addresses_ne : ∀ address, table.HoldsAt one address → ¬table.HoldsAt other address
  areAliases : table.areAliases one other = false
  findAddress_ne : ∀ address, table.HoldsAt one address → table.findAddress address ≠ some other

/-- A symbol is recorded under one address. -/
theorem HoldsAt.unique {place : Nat} {address counterpart : Address} (holds : table.HoldsAt place address)
    (holdsToo : table.HoldsAt place counterpart) : address = counterpart := by
  obtain ⟨symbol, held, _, _, recorded⟩ := holds
  obtain ⟨same, heldToo, _, _, recordedToo⟩ := holdsToo
  rw [held] at heldToo
  obtain rfl := Option.some.inj heldToo
  exact Option.some.inj (recorded.symm.trans recordedToo)

/-- Symbols that are recorded under addresses are of one class exactly if the addresses are one. -/
theorem together_iff_address_eq {one other : Nat} {address counterpart : Address}
    (ofOne : table.HoldsAt one address) (ofOther : table.HoldsAt other counterpart) :
    table.Together one other ↔ address = counterpart := by
  constructor
  · rintro (rfl | ⟨both, holdsOne, holdsOther⟩)
    · exact ofOne.unique ofOther
    · exact (ofOne.unique holdsOne).trans (holdsOther.unique ofOther)
  · rintro rfl
    exact Or.inr ⟨address, ofOne, ofOther⟩

/-- Only a code address makes the address of one symbol lead to a symbol that is recorded under another
address. -/
theorem findAddress_eq_some_iff (made : ofEntries entries flavor suppresses = .ok table)
    {other : Nat} {address : Address} (elsewhere : ¬table.HoldsAt other address) :
    table.findAddress address = some other ↔ table.codeAddresses.get? address = some other := by
  rw [findAddress]
  cases table.codeAddresses.get? address with
  | some found => exact Iff.rfl
  | none =>
    rw [(describes_of_ofEntries made).mains]
    simp only [reduceCtorEq, iff_false]
    intro first
    exact elsewhere ((holdsAt_iff made other address).mpr (List.mem_of_mem_head? first))

/-- Symbols are told apart exactly if their addresses differ and the address of the first is not the code
address of the second. -/
theorem tellsApart_iff (made : ofEntries entries flavor suppresses = .ok table) {one other : Nat}
    {address counterpart : Address} (ofOne : table.HoldsAt one address)
    (ofOther : table.HoldsAt other counterpart) :
    table.TellsApart one other ↔
      address ≠ counterpart ∧ table.codeAddresses.get? address ≠ some other := by
  have unaliased : table.areAliases one other = false ↔ address ≠ counterpart := by
    rw [← Bool.not_eq_true, areAliases_iff_together made, together_iff_address_eq ofOne ofOther]
  have elsewhere (differs : address ≠ counterpart) : ¬table.HoldsAt other address :=
    fun holds => differs (holds.unique ofOther)
  constructor
  · intro apart
    have differs := unaliased.mp apart.areAliases
    exact ⟨differs, mt (findAddress_eq_some_iff made (elsewhere differs)).mpr
      (apart.findAddress_ne address ofOne)⟩
  · rintro ⟨differs, uncoded⟩
    constructor
    case addresses_ne =>
      intro same holds
      rw [← ofOne.unique holds]
      exact elsewhere differs
    case areAliases => exact unaliased.mpr differs
    case findAddress_ne =>
      intro same holds
      rw [← ofOne.unique holds]
      exact mt (findAddress_eq_some_iff made (elsewhere differs)).mp uncoded

end Symbol.Table

namespace Elf

/-- From here on the numbers of sections have special meanings. -/
def reservedIndex : Nat := 0xff00

/-- The place of a symbol in its image: so many bytes behind the start of its section. It wraps round at
the end of the address space. -/
def spot (record : SymbolRecord) (part : Section) : UInt64 := UInt64.ofNat (record.value + part.offset)

variable {header : Header} {image : ByteArray} {sections : Sections} {suppresses : Symbol → Bool}
  {table : Symbol.Table}

/-- The symbol at a place of a table is made from a record of the image, which puts it into an ordinary
section at an offset below the size of the section. -/
structure LiesIn (header : Header) (image : ByteArray) (sections : Sections) (table : Symbol.Table)
    (place : Nat) (record : SymbolRecord) (part : Section) : Prop where
  exists_symbol : ∃ symbol, table.symbol? place = some symbol ∧
    (recordsOf header image sections)[symbol.index]? = some record
  ordinary : record.sectionIndex < reservedIndex
  section_eq : sections.section? record.sectionIndex = some part
  inside : record.value < part.size

/-- A symbol in a section has its place in the image as its address. -/
theorem addressOf_eq_spot {record : SymbolRecord} {part : Section}
    (relocatable : header.typeCode = Header.relocatable)
    (ordinary : record.sectionIndex < reservedIndex)
    (held : sections.section? record.sectionIndex = some part) :
    placeOf record = .inSection record.sectionIndex ∧
      addressOf header sections record = spot record part := by
  have defined : record.sectionIndex ≠ SymbolRecord.undefinedIndex := by
    intro none
    rw [Sections.section?, none] at held
    contradiction
  have unreserved : record.sectionIndex ≠ SymbolRecord.absoluteIndex ∧
      record.sectionIndex ≠ SymbolRecord.commonIndex := by
    simp only [reservedIndex, SymbolRecord.absoluteIndex, SymbolRecord.commonIndex] at *
    omega
  have place : placeOf record = .inSection record.sectionIndex := by
    simp only [placeOf, beq_eq_false_iff_ne.mpr defined, beq_eq_false_iff_ne.mpr unreserved.1,
      beq_eq_false_iff_ne.mpr unreserved.2, Bool.false_eq_true, if_false]
  refine ⟨place, ?_⟩
  simp only [addressOf, place, relocatable, beq_self_eq_true, if_true, held, Option.map_some,
    Option.getD_some]
  exact (UInt64.ofNat_add _ _).symm

/-- A symbol that lies in a section is recorded under its place in the image. -/
theorem LiesIn.holdsAt {entries : List Symbol.Entry} {flavor : Symbol.Flavor} {place : Nat}
    {record : SymbolRecord} {part : Section} (lies : LiesIn header image sections table place record part)
    (relocatable : header.typeCode = Header.relocatable)
    (listed : entriesOf header image sections = .ok (entries, flavor))
    (made : Symbol.Table.ofEntries entries flavor suppresses = .ok table) :
    table.HoldsAt place ⟨spot record part⟩ := by
  obtain ⟨symbol, held, ofSymbol⟩ := lies.exists_symbol
  obtain ⟨entry, member, gives⟩ := Symbol.Table.exists_gives_of_symbol? made held
  obtain ⟨position, found⟩ := List.getElem?_of_mem member
  obtain ⟨_, same, _, ofEntry, index, placed, value, _⟩ := exists_record_of_entriesOf listed found
  have number : symbol.index = position := (congrArg Symbol.index gives.same :).trans index
  rw [← number, ofSymbol] at ofEntry
  obtain rfl := Option.some.inj ofEntry
  obtain ⟨inSection, address⟩ := addressOf_eq_spot relocatable lies.ordinary lies.section_eq
  rw [inSection] at placed
  rw [address] at value
  have addressed : entry.toSymbol.address = some ⟨spot record part⟩ := by
    simp only [Symbol.Entry.toSymbol, placed, value]
    rfl
  have kept := (Symbol.Table.isSome_address_toSymbol entry).mp (by rw [addressed]; rfl)
  exact ⟨symbol, held, (congrArg Symbol.isDefined gives.same :).trans kept.1,
    (congrArg Symbol.isCommon gives.same :).trans kept.2,
    (congrArg Symbol.address gives.same :).trans addressed⟩

/-- The table of an image is made from the entries of the image. -/
theorem exists_entries_of_symbolTable (layout : layoutOf image = .ok (header, sections))
    (read : symbolTable image suppresses = .ok table) :
    ∃ entries flavor, entriesOf header image sections = .ok (entries, flavor) ∧
      Symbol.Table.ofEntries entries flavor suppresses = .ok table := by
  rw [symbolTable] at read
  obtain ⟨parts, layoutAgain, read⟩ := bind_eq_ok.mp read
  rw [layout] at layoutAgain
  obtain rfl := Except.ok.inj layoutAgain
  obtain ⟨⟨entries, flavor⟩, listed, made⟩ := bind_eq_ok.mp read
  exact ⟨entries, flavor, listed, eq_ok_of_mapError made⟩

/-- Any two symbols of different sections are told apart. -/
def SeparatesSections (header : Header) (image : ByteArray) (sections : Sections)
    (table : Symbol.Table) : Prop :=
  ∀ one other here there part counterpart, LiesIn header image sections table one here part →
    LiesIn header image sections table other there counterpart →
    here.sectionIndex ≠ there.sectionIndex → table.TellsApart one other

/-- Any two symbols of different sections have different places in the image, and the place of the first is
not the code address of the second. -/
def SpotsDiffer (header : Header) (image : ByteArray) (sections : Sections)
    (table : Symbol.Table) : Prop :=
  ∀ one other here there part counterpart, LiesIn header image sections table one here part →
    LiesIn header image sections table other there counterpart →
    here.sectionIndex ≠ there.sectionIndex →
    spot here part ≠ spot there counterpart ∧
      table.codeAddresses.get? ⟨spot here part⟩ ≠ some other

/-- An image that has still to be linked is read so that symbols of different sections are told apart
exactly if they have different places in the image, none of which is a code address of the other symbol. -/
theorem separatesSections_iff (layout : layoutOf image = .ok (header, sections))
    (relocatable : header.typeCode = Header.relocatable)
    (read : symbolTable image suppresses = .ok table) :
    SeparatesSections header image sections table ↔ SpotsDiffer header image sections table := by
  obtain ⟨entries, flavor, listed, made⟩ := exists_entries_of_symbolTable layout read
  have apart_iff {one other : Nat} {here there : SymbolRecord} {part counterpart : Section}
      (ofOne : LiesIn header image sections table one here part)
      (ofOther : LiesIn header image sections table other there counterpart) :=
    Symbol.Table.tellsApart_iff made (ofOne.holdsAt relocatable listed made)
      (ofOther.holdsAt relocatable listed made)
  constructor
  · intro separates one other here there part counterpart ofOne ofOther distinct
    obtain ⟨addresses, uncoded⟩ := (apart_iff ofOne ofOther).mp
      (separates one other here there part counterpart ofOne ofOther distinct)
    exact ⟨fun same => addresses (congrArg Address.mk same), uncoded⟩
  · intro differ one other here there part counterpart ofOne ofOther distinct
    obtain ⟨spots, uncoded⟩ := differ one other here there part counterpart ofOne ofOther distinct
    exact (apart_iff ofOne ofOther).mpr ⟨fun same => spots (congrArg Address.val same), uncoded⟩

/-- Sections lie side by side: one ends before the other begins. -/
def Beside (part counterpart : Section) : Prop :=
  part.offset + part.size ≤ counterpart.offset ∨ counterpart.offset + counterpart.size ≤ part.offset

/-- Symbols of sections that lie side by side inside the address space have different places. -/
theorem spot_ne_of_beside {here there : SymbolRecord} {part counterpart : Section}
    (insideOne : here.value < part.size) (insideOther : there.value < counterpart.size)
    (beside : Beside part counterpart)
    (bounded : part.offset + part.size ≤ UInt64.size ∧
      counterpart.offset + counterpart.size ≤ UInt64.size) :
    spot here part ≠ spot there counterpart := by
  intro same
  have sums := congrArg UInt64.toNat same
  rw [spot, spot, UInt64.toNat_ofNat_of_lt' (by omega), UInt64.toNat_ofNat_of_lt' (by omega)] at sums
  rw [Beside] at beside
  omega

/-- Where all sections lie side by side and functions are not reached through descriptors, symbols of
different sections are told apart. -/
theorem separatesSections_of_beside (layout : layoutOf image = .ok (header, sections))
    (relocatable : header.typeCode = Header.relocatable)
    (read : symbolTable image suppresses = .ok table) (plain : table.flavor.usesDescriptors = false)
    (beside : ∀ number other part counterpart, sections.section? number = some part →
      sections.section? other = some counterpart → number ≠ other → Beside part counterpart)
    (bounded : ∀ number part, sections.section? number = some part →
      part.offset + part.size ≤ UInt64.size) :
    SeparatesSections header image sections table := by
  obtain ⟨entries, flavor, listed, made⟩ := exists_entries_of_symbolTable layout read
  intro one other here there part counterpart ofOne ofOther distinct
  refine (Symbol.Table.tellsApart_iff made (ofOne.holdsAt relocatable listed made)
    (ofOther.holdsAt relocatable listed made)).mpr ⟨fun same => ?_, ?_⟩
  · exact spot_ne_of_beside ofOne.inside ofOther.inside
      (beside _ _ _ _ ofOne.section_eq ofOther.section_eq distinct)
      ⟨bounded _ _ ofOne.section_eq, bounded _ _ ofOther.section_eq⟩ (congrArg Address.val same)
  · rw [Symbol.Table.codeAddresses_of_ofEntries made plain]
    exact Option.some_ne_none _ ∘ Eq.symm

/-! ## An image with a section that takes no room -/

deriving instance DecidableEq for SymbolRecord

/-- The contents of an image with the variables `buffer` and `table`, each in a section of its own. -/
def overlaidContents : List UInt8 := [
    -- The header: five sections, described from byte 120 on.
    0x7f, 0x45, 0x4c, 0x46, 1, 1, 1, 0, 0, 0, 0, 0, 0, 0, 0, 0, 1, 0, 3, 0,
    1, 0, 0, 0, 0, 0, 0, 0, 0, 0, 0, 0, 0x78, 0, 0, 0, 0, 0, 0, 0,
    0x34, 0, 0, 0, 0, 0, 0x28, 0, 5, 0, 4, 0,
    -- The value of `table`.
    1, 2, 3, 4,
    -- The symbols: an empty one, `buffer` and `table`.
    0, 0, 0, 0, 0, 0, 0, 0, 0, 0, 0, 0, 0, 0, 0, 0,
    1, 0, 0, 0, 0, 0, 0, 0, 4, 0, 0, 0, 0x11, 0, 1, 0,
    8, 0, 0, 0, 0, 0, 0, 0, 4, 0, 0, 0, 0x11, 0, 2, 0,
    -- The names of the symbols.
    0, 0x62, 0x75, 0x66, 0x66, 0x65, 0x72, 0, 0x74, 0x61, 0x62, 0x6c, 0x65, 0, 0, 0]

/-- The section table of the image: an empty entry, a section without contents, the one of `table`, which
begins at the same place, the symbols and the names. -/
def overlaidSectionTable : List UInt8 := [
    0, 0, 0, 0, 0, 0, 0, 0, 0, 0, 0, 0, 0, 0, 0, 0, 0, 0, 0, 0,
    0, 0, 0, 0, 0, 0, 0, 0, 0, 0, 0, 0, 0, 0, 0, 0, 0, 0, 0, 0,
    0, 0, 0, 0, 8, 0, 0, 0, 3, 0, 0, 0, 0, 0, 0, 0, 0x34, 0, 0, 0,
    4, 0, 0, 0, 0, 0, 0, 0, 0, 0, 0, 0, 4, 0, 0, 0, 0, 0, 0, 0,
    0, 0, 0, 0, 1, 0, 0, 0, 2, 0, 0, 0, 0, 0, 0, 0, 0x34, 0, 0, 0,
    4, 0, 0, 0, 0, 0, 0, 0, 0, 0, 0, 0, 4, 0, 0, 0, 0, 0, 0, 0,
    0, 0, 0, 0, 2, 0, 0, 0, 0, 0, 0, 0, 0, 0, 0, 0, 0x38, 0, 0, 0,
    0x30, 0, 0, 0, 4, 0, 0, 0, 1, 0, 0, 0, 4, 0, 0, 0, 0x10, 0, 0, 0,
    0, 0, 0, 0, 3, 0, 0, 0, 0, 0, 0, 0, 0, 0, 0, 0, 0x68, 0, 0, 0,
    0x10, 0, 0, 0, 0, 0, 0, 0, 0, 0, 0, 0, 1, 0, 0, 0, 0, 0, 0, 0]

/-- The image of its contents and, behind them, its section table. -/
def overlaidImage : ByteArray := ⟨(overlaidContents ++ overlaidSectionTable).toArray⟩

/-- The header of the image. -/
def overlaidHeader : Header where
  format := ⟨false, .leastFirst⟩
  typeCode := 1
  machine := 3
  programOffset := 0
  sectionOffset := 120
  flags := 0
  programEntrySize := 0
  programCount := 0
  sectionEntrySize := 40
  sectionCount := 5
  namesIndex := 4

/-- The section without contents. -/
def emptySection : Section := ⟨0, Section.withoutData, 0, 52, 4, 0, 0, 0⟩

/-- The section of `table`. -/
def filledSection : Section := ⟨0, 1, 0, 52, 4, 0, 0, 0⟩

/-- The sections of the image, which have no names themselves. -/
def overlaidSections : Sections where
  all := #[⟨0, 0, 0, 0, 0, 0, 0, 0⟩, emptySection, filledSection,
    ⟨0, Section.symbols, 0, 56, 48, 4, 1, 16⟩, ⟨0, Section.strings, 0, 104, 16, 0, 0, 0⟩]
  names := ⟨#[0, 0x62, 0x75, 0x66, 0x66, 0x65, 0x72, 0, 0x74, 0x61, 0x62, 0x6c, 0x65, 0, 0, 0]⟩

/-- The entries of the image. -/
def overlaidEntries : List Symbol.Entry := [
  { index := 0, name := "", typeCode := 0, value := 0, bindingCode := 0, place := .undefined },
  { index := 1, name := "buffer", typeCode := 1, value := 52, size := 4, place := .inSection 1 },
  { index := 2, name := "table", typeCode := 1, value := 52, size := 4, place := .inSection 2 }]

/-- The table of the image. -/
def overlaidTable : Symbol.Table :=
  (Symbol.Table.ofEntries overlaidEntries {} fun _ => false).toOption.getD {}

theorem layoutOf_overlaidImage :
    layoutOf overlaidImage = .ok (overlaidHeader, overlaidSections) := by
  refine layoutOf_eq (by decide +kernel) ?_
  exact (read_sections_append rfl (by decide : 5 ≠ 0) rfl (by decide +kernel)
    (by decide +kernel)).trans (by decide +kernel)

theorem toOption_entriesOf_overlaidImage :
    (entriesOf overlaidHeader overlaidImage overlaidSections).toOption = some (overlaidEntries, {}) := by
  decide +kernel

theorem symbolTable_overlaidImage :
    symbolTable overlaidImage (fun _ => false) = .ok overlaidTable := by
  obtain ⟨table, made⟩ := Symbol.Table.exists_ofEntries_eq_ok
    (by decide +kernel : (Symbol.Table.ofEntries overlaidEntries {} fun _ => false).toBool = true)
  rw [symbolTable, layoutOf_overlaidImage]
  refine bind_eq_ok.mpr ⟨_, rfl, bind_eq_ok.mpr
    ⟨_, eq_ok_of_toOption toOption_entriesOf_overlaidImage, ?_⟩⟩
  dsimp only
  rw [overlaidTable, made]
  rfl

/-- The record of a variable of four bytes at the start of a section. -/
def variableRecord (nameOffset sectionIndex : Nat) : SymbolRecord where
  nameOffset := nameOffset
  value := 0
  size := 4
  info := 0x11
  other := 0
  sectionIndex := sectionIndex

theorem recordsOf_overlaidImage : recordsOf overlaidHeader overlaidImage overlaidSections =
    [⟨0, 0, 0, 0, 0, 0⟩, variableRecord 1 1, variableRecord 8 2] := by
  decide +kernel

/-- Each variable lies in its section. -/
theorem liesIn_overlaidImage :
    LiesIn overlaidHeader overlaidImage overlaidSections overlaidTable 0 (variableRecord 1 1)
        emptySection ∧
      LiesIn overlaidHeader overlaidImage overlaidSections overlaidTable 1 (variableRecord 8 2)
        filledSection := by
  have indices : (overlaidTable.symbol? 0).map Symbol.index = some 1 ∧
      (overlaidTable.symbol? 1).map Symbol.index = some 2 := by decide +kernel
  obtain ⟨buffer, heldBuffer, ofBuffer⟩ := Option.map_eq_some_iff.mp indices.1
  obtain ⟨table, heldTable, ofTable⟩ := Option.map_eq_some_iff.mp indices.2
  exact ⟨⟨⟨buffer, heldBuffer, by rw [recordsOf_overlaidImage, ofBuffer]; rfl⟩, by decide, rfl, by decide⟩,
    ⟨⟨table, heldTable, by rw [recordsOf_overlaidImage, ofTable]; rfl⟩, by decide, rfl, by decide⟩⟩

/-- The rule at the image: neither side of the equivalence holds. -/
theorem separatesSections_iff_overlaid :
    layoutOf overlaidImage = .ok (overlaidHeader, overlaidSections) ∧
      overlaidHeader.typeCode = Header.relocatable ∧
      symbolTable overlaidImage (fun _ => false) = .ok overlaidTable ∧
      (SeparatesSections overlaidHeader overlaidImage overlaidSections overlaidTable ↔
        SpotsDiffer overlaidHeader overlaidImage overlaidSections overlaidTable) :=
  ⟨layoutOf_overlaidImage, rfl, symbolTable_overlaidImage,
    separatesSections_iff layoutOf_overlaidImage rfl symbolTable_overlaidImage⟩

/-- In the image the variables of two sections are taken for aliases. -/
theorem overlaid_areAliases :
    (layoutOf overlaidImage = .ok (overlaidHeader, overlaidSections) ∧
        overlaidHeader.typeCode = Header.relocatable ∧
        symbolTable overlaidImage (fun _ => false) = .ok overlaidTable) ∧
      (overlaidTable.symbols.toList.map Symbol.name = ["buffer", "table"] ∧
        overlaidTable.areAliases 0 1 = true) ∧
      ¬SeparatesSections overlaidHeader overlaidImage overlaidSections overlaidTable := by
  have aliases : overlaidTable.areAliases 0 1 = true := by decide +kernel
  refine ⟨⟨layoutOf_overlaidImage, rfl, symbolTable_overlaidImage⟩, ⟨by decide +kernel, aliases⟩, ?_⟩
  intro separates
  have apart := separates 0 1 _ _ _ _ liesIn_overlaidImage.1 liesIn_overlaidImage.2 (by decide)
  exact Bool.false_ne_true (apart.areAliases.symm.trans aliases)

end Elf

end Abiscope
