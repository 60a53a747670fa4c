import Abiscope.Elf.Image
import Abiscope.Proofs.Readings

/-!
# Versions and the tables they are for

The versions of an image are recorded by number, and the numbers are those of the dynamic symbols. The
entries that are listed come from the symbol table, which is another section, of other length and in
another order. Yet an entry gets the version that is recorded under its own number. So the versions
follow the places in the symbol table and not the symbols: an entry has the version of the dynamic symbol
that it stands for exactly if both numbers happen to have the same one, as is the case where the two
tables have the same order.
-/

namespace Abiscope.Elf

/-! ## Versions by number -/

/-- The version that is recorded under a number, for a symbol that is defined. -/
def VersionTable.recorded (versions : VersionTable) (index : Nat) : Symbol.Version :=
  ((versions.version? index).map fun found => ⟨found.1, !found.2⟩).getD {}

/-- A symbol that is defined has the version that is recorded under the number it is looked up by. -/
theorem versionOf_of_defined {versions : VersionTable} {record : SymbolRecord} (index : Nat)
    (defined : placeOf record ≠ .undefined) :
    versionOf (some versions) record index = versions.recorded index := by
  rw [versionOf, VersionTable.recorded, Option.bind_some]
  cases versions.version? index with
  | none => rfl
  | some found => simp [defined]

variable {header : Header} {image : ByteArray} {sections : Sections} {entries : List Symbol.Entry}
  {flavor : Symbol.Flavor}

/-- The records of the symbol table of an image. -/
def recordsOf (header : Header) (image : ByteArray) (sections : Sections) : List SymbolRecord :=
  (((sections.ofType? Section.symbols).bind fun found =>
    (SymbolSection.read header.format image sections found.1 found.2).toOption).getD {}).records

/-- The entry at a place of the symbol table is made from the record at this place and has the number of
the place, under which its version is looked up. -/
theorem exists_record_of_entriesOf (listed : entriesOf header image sections = .ok (entries, flavor))
    {place : Nat} {entry : Symbol.Entry} (found : entries[place]? = some entry) :
    ∃ versions record, VersionTable.read header.format image sections = .ok versions ∧
      (recordsOf header image sections)[place]? = some record ∧
      (entry.index = place ∧ entry.place = placeOf record ∧
        entry.value = addressOf header sections record ∧
        entry.version = versionOf versions record place) := by
  rw [entriesOf] at listed
  cases held : sections.ofType? Section.symbols with
  | none =>
    rw [held] at listed
    contradiction
  | some part =>
    rw [held] at listed
    dsimp only at listed
    split at listed
    · contradiction
    · obtain ⟨symbols, readSymbols, listed⟩ := bind_eq_ok.mp listed
      obtain ⟨versions, readVersions, listed⟩ := bind_eq_ok.mp listed
      obtain ⟨made, each, listed⟩ := bind_eq_ok.mp listed
      cases listed
      have records : recordsOf header image sections = symbols.records := by
        rw [recordsOf, held, Option.bind_some, eq_ok_of_mapError readSymbols]
        rfl
      obtain ⟨sameLength, pairs⟩ := List.forall₂_iff_get.mp (mapM_eq_ok_iff.mp each)
      obtain ⟨inside, rfl⟩ := List.getElem?_eq_some_iff.mp found
      have ofRecord := pairs place (sameLength ▸ inside) inside
      have insideRecords : place < symbols.records.length := by
        rwa [← sameLength, List.length_zipIdx] at inside
      simp only [List.get_eq_getElem, List.getElem_zipIdx, Nat.zero_add] at ofRecord
      split at ofRecord
      · rw [← Except.ok.inj ofRecord, records]
        exact ⟨versions, _, eq_ok_of_mapError readVersions,
          List.getElem?_eq_getElem insideRecords, rfl, rfl, rfl, rfl⟩
      · contradiction

/-- A defined entry has the version that is recorded under its place in the symbol table. -/
theorem version_of_entriesOf {versions : VersionTable}
    (listed : entriesOf header image sections = .ok (entries, flavor))
    (read : VersionTable.read header.format image sections = .ok (some versions))
    {entry : Symbol.Entry} (member : entry ∈ entries) (defined : entry.place ≠ .undefined) :
    entry.version = versions.recorded entry.index := by
  obtain ⟨place, found⟩ := List.getElem?_of_mem member
  obtain ⟨_, record, readAgain, _, index, placed, _, version⟩ := exists_record_of_entriesOf listed found
  rw [read] at readAgain
  cases readAgain
  rw [placed] at defined
  rw [version, index, versionOf_of_defined place defined]

/-! ## Symbols with versions -/

/-- What tells the symbols of an image apart: name, address and section. -/
structure Traits where
  name : Option String
  value : UInt64
  place : Symbol.Place
deriving DecidableEq, Repr

/-- The entries of a symbol table, the versions that are recorded by the number of dynamic symbols, and
these symbols. -/
structure VersionedSymbols where
  entries : List Symbol.Entry
  versions : VersionTable
  dynamic : List Traits

/-- Reads the symbols of an image and the dynamic symbols that its versions are for. There are none where
it has no versions, or where these are for the symbol table itself. -/
def versionedSymbols? (image : ByteArray) : Option VersionedSymbols := do
  let (header, sections) ← (layoutOf image).toOption
  let (entries, _) ← (entriesOf header image sections).toOption
  let versions ← (← (VersionTable.read header.format image sections).toOption)
  let (part, _) ← sections.ofType? Section.symbolVersions
  let owner ← sections.section? part.link
  let dynamic ← (SymbolSection.read header.format image sections owner part.link).toOption
  if owner.type != Section.dynamicSymbols then none
  else return {
    entries := entries
    versions := versions
    dynamic := dynamic.records.map fun record =>
      ⟨textAt? dynamic.names record.nameOffset, addressOf header sections record, placeOf record⟩ }

namespace VersionedSymbols

variable {symbols : VersionedSymbols}

/-- The numbers of the dynamic symbols of the same name, address and section as an entry. -/
def twins (symbols : VersionedSymbols) (entry : Symbol.Entry) : List Nat :=
  (List.range symbols.dynamic.length).filter fun place =>
    symbols.dynamic[place]? == some ⟨some entry.name, entry.value, entry.place⟩

/-- The only dynamic symbol of the same name, address and section as an entry. -/
def twin? (symbols : VersionedSymbols) (entry : Symbol.Entry) : Option Nat :=
  match symbols.twins entry with
  | [place] => some place
  | _ => none

/-- Every defined entry that stands for one dynamic symbol has the version that is recorded for it. -/
def VersionsFollow (symbols : VersionedSymbols) : Prop :=
  ∀ entry ∈ symbols.entries, entry.place ≠ .undefined → ∀ place ∈ symbols.twin? entry,
    entry.version = symbols.versions.recorded place

/-- Every defined entry that stands for one dynamic symbol has a number under which the same version is
recorded. -/
def NumbersAgree (symbols : VersionedSymbols) : Prop :=
  ∀ entry ∈ symbols.entries, entry.place ≠ .undefined → ∀ place ∈ symbols.twin? entry,
    symbols.versions.recorded entry.index = symbols.versions.recorded place

instance (symbols : VersionedSymbols) : Decidable symbols.VersionsFollow :=
  inferInstanceAs (Decidable (∀ entry ∈ symbols.entries, entry.place ≠ .undefined →
    ∀ place ∈ symbols.twin? entry, entry.version = symbols.versions.recorded place))

/-- A defined entry has the version that is recorded under its own number. -/
theorem version_eq_recorded {image : ByteArray} (versioned : versionedSymbols? image = some symbols)
    {entry : Symbol.Entry} (member : entry ∈ symbols.entries) (defined : entry.place ≠ .undefined) :
    entry.version = symbols.versions.recorded entry.index := by
  simp only [versionedSymbols?, Option.bind_eq_bind, Option.bind_eq_some_iff] at versioned
  obtain ⟨⟨header, sections⟩, _, ⟨entries, flavor⟩, listed, found, read, versions, rfl, versioned⟩ :=
    versioned
  obtain ⟨_, _, owner, _, dynamic, _, versioned⟩ := versioned
  rw [Option.ite_none_left_eq_some] at versioned
  cases versioned.2
  exact version_of_entriesOf (eq_ok_of_toOption listed) (eq_ok_of_toOption read) member defined

/-- The versions of an image follow its symbols exactly if each defined entry that stands for one dynamic
symbol has a number under which the version of this symbol is recorded.

Proof: an entry has the version that is recorded under its own number. -/
theorem versionsFollow_iff {image : ByteArray} (versioned : versionedSymbols? image = some symbols) :
    symbols.VersionsFollow ↔ symbols.NumbersAgree := by
  constructor
  · intro follow entry member defined place twin
    rw [← version_eq_recorded versioned member defined]
    exact follow entry member defined place twin
  · intro agree entry member defined place twin
    rw [version_eq_recorded versioned member defined]
    exact agree entry member defined place twin

/-- The versions of an image follow its symbols where those that are defined have the numbers of the
dynamic symbols that they stand for. -/
theorem versionsFollow_of_sameNumbers {image : ByteArray}
    (versioned : versionedSymbols? image = some symbols)
    (same : ∀ entry ∈ symbols.entries, ∀ place ∈ symbols.twin? entry, entry.index = place) :
    symbols.VersionsFollow := by
  intro entry member defined place twin
  rw [version_eq_recorded versioned member defined, same entry member place twin]

end VersionedSymbols

/-! ## An image in another order -/

deriving instance DecidableEq for Header, Section

/-- The sections of two images are compared with the bytes of their names. -/
instance : DecidableEq Sections := fun left right =>
  decidable_of_iff (left.all = right.all ∧ left.names.data = right.names.data)
    (by rw [← ByteArray.ext_iff, ← Sections.mk.injEq])

deriving instance DecidableEq for VersionTable, VersionedSymbols

/-- The end of an image is what was put there. -/
theorem slice?_append (before after : List UInt8) :
    slice? ⟨(before ++ after).toArray⟩ before.length after.length = some ⟨after.toArray⟩ := by
  have inside : before.length + after.length ≤ (ByteArray.mk (before ++ after).toArray).size := by
    rw [← List.length_append]
    exact Nat.le_refl _
  rw [slice?, if_pos inside, Option.some_inj]
  apply ByteArray.ext
  apply Array.toList_inj.mp
  simp

/-- The sections of an image whose section table stands behind everything else are those of this table. -/
theorem read_sections_append {contents table : List UInt8} {header : Header} {count : Nat}
    (counted : Sections.count header ⟨(contents ++ table).toArray⟩ = .ok count) (some : count ≠ 0)
    (entrySize : header.sectionEntrySize = header.format.sectionSize)
    (start : header.sectionOffset = contents.length)
    (size : count * header.format.sectionSize = table.length) :
    Sections.read header ⟨(contents ++ table).toArray⟩ = do
      let all ← (List.range count).mapM fun index =>
        need .sectionTable
          (Section.read? header.format ⟨table.toArray⟩ (index * header.format.sectionSize))
      return ⟨all.toArray, ← Sections.namesOf header ⟨(contents ++ table).toArray⟩ all.toArray⟩ := by
  have present : (count == 0) = false := beq_eq_false_iff_ne.mpr some
  have expected : (header.sectionEntrySize != header.format.sectionSize) = false := by
    rw [entrySize, bne_self_eq_false]
  rw [Sections.read, counted]
  simp only [bind, Except.bind, present, expected, start, size, slice?_append, need,
    Bool.false_eq_true, if_false]

/-- The parts of an image are its header and the sections that the header points at. -/
theorem layoutOf_eq {image : ByteArray} {header : Header} {sections : Sections}
    (ofHeader : Header.read image = .ok header)
    (ofSections : Sections.read header image = .ok sections) :
    layoutOf image = .ok (header, sections) := by
  have both : (do let header ← Header.read image; return (header, ← Sections.read header image)) =
      Except.ok (header, sections) :=
    bind_eq_ok.mpr ⟨header, ofHeader, bind_eq_ok.mpr ⟨sections, ofSections, rfl⟩⟩
  rw [layoutOf, both]
  rfl

/-- The contents of an image that defines the functions `init` and `stop`, of which the first has a
version. The dynamic symbols are in this order, those of the symbol table in the reverse one. -/
def reorderedContents : List UInt8 := [
    -- The header: six sections, described from byte 200 on.
    0x7f, 0x45, 0x4c, 0x46, 1, 1, 1, 0, 0, 0, 0, 0, 0, 0, 0, 0, 3, 0, 3, 0,
    1, 0, 0, 0, 0, 0, 0, 0, 0, 0, 0, 0, 0xc8, 0, 0, 0, 0, 0, 0, 0,
    0x34, 0, 0, 0, 0, 0, 0x28, 0, 6, 0, 5, 0,
    -- The dynamic symbols: an empty one, `init` and `stop`.
    0, 0, 0, 0, 0, 0, 0, 0, 0, 0, 0, 0, 0, 0, 0, 0,
    1, 0, 0, 0, 0, 0x10, 0, 0, 0, 0, 0, 0, 0x12, 0, 1, 0,
    6, 0, 0, 0, 0, 0x20, 0, 0, 0, 0, 0, 0, 0x12, 0, 1, 0,
    -- The symbol table: an empty one, `stop` and `init`.
    0, 0, 0, 0, 0, 0, 0, 0, 0, 0, 0, 0, 0, 0, 0, 0,
    6, 0, 0, 0, 0, 0x20, 0, 0, 0, 0, 0, 0, 0x12, 0, 1, 0,
    1, 0, 0, 0, 0, 0x10, 0, 0, 0, 0, 0, 0, 0x12, 0, 1, 0,
    -- The versions of the dynamic symbols: only the one after the empty one has any.
    0, 0, 2, 0, 1, 0, 0, 0,
    -- The definition of the version under the index 2.
    1, 0, 0, 0, 2, 0, 1, 0, 0, 0, 0, 0, 0x14, 0, 0, 0, 0, 0, 0, 0,
    0xb, 0, 0, 0, 0, 0, 0, 0,
    -- The names of the symbols and of the version.
    0, 0x69, 0x6e, 0x69, 0x74, 0, 0x73, 0x74, 0x6f, 0x70, 0, 0x56, 0x31, 0, 0, 0]

/-- The section table of the image: an empty entry, the dynamic symbols, the symbol table, the versions,
their definitions and the names. -/
def reorderedTable : List UInt8 := [
    0, 0, 0, 0, 0, 0, 0, 0, 0, 0, 0, 0, 0, 0, 0, 0, 0, 0, 0, 0,
    0, 0, 0, 0, 0, 0, 0, 0, 0, 0, 0, 0, 0, 0, 0, 0, 0, 0, 0, 0,
    0, 0, 0, 0, 0xb, 0, 0, 0, 0, 0, 0, 0, 0, 0, 0, 0, 0x34, 0, 0, 0,
    0x30, 0, 0, 0, 5, 0, 0, 0, 1, 0, 0, 0, 0, 0, 0, 0, 0x10, 0, 0, 0,
    0, 0, 0, 0, 2, 0, 0, 0, 0, 0, 0, 0, 0, 0, 0, 0, 0x64, 0, 0, 0,
    0x30, 0, 0, 0, 5, 0, 0, 0, 1, 0, 0, 0, 0, 0, 0, 0, 0x10, 0, 0, 0,
    0, 0, 0, 0, 0xff, 0xff, 0xff, 0x6f, 0, 0, 0, 0, 0, 0, 0, 0, 0x94, 0, 0, 0,
    6, 0, 0, 0, 1, 0, 0, 0, 0, 0, 0, 0, 0, 0, 0, 0, 2, 0, 0, 0,
    0, 0, 0, 0, 0xfd, 0xff, 0xff, 0x6f, 0, 0, 0, 0, 0, 0, 0, 0, 0x9c, 0, 0, 0,
    0x1c, 0, 0, 0, 5, 0, 0, 0, 1, 0, 0, 0, 0, 0, 0, 0, 0, 0, 0, 0,
    0, 0, 0, 0, 3, 0, 0, 0, 0, 0, 0, 0, 0, 0, 0, 0, 0xb8, 0, 0, 0,
    0x10, 0, 0, 0, 0, 0, 0, 0, 0, 0, 0, 0, 0, 0, 0, 0, 0, 0, 0, 0]

/-- The image of its contents and, behind them, its section table. -/
def reorderedImage : ByteArray := ⟨(reorderedContents ++ reorderedTable).toArray⟩

/-- The header of the image. -/
def reorderedHeader : Header where
  format := ⟨false, .leastFirst⟩
  typeCode := 3
  machine := 3
  programOffset := 0
  sectionOffset := 200
  flags := 0
  programEntrySize := 0
  programCount := 0
  sectionEntrySize := 40
  sectionCount := 6
  namesIndex := 5

/-- The sections of the image, which have no names themselves. -/
def reorderedSections : Sections where
  all := #[
    ⟨0, 0, 0, 0, 0, 0, 0, 0⟩,
    ⟨0, Section.dynamicSymbols, 0, 52, 48, 5, 1, 16⟩,
    ⟨0, Section.symbols, 0, 100, 48, 5, 1, 16⟩,
    ⟨0, Section.symbolVersions, 0, 148, 6, 1, 0, 2⟩,
    ⟨0, Section.definedVersions, 0, 156, 28, 5, 1, 0⟩,
    ⟨0, Section.strings, 0, 184, 16, 0, 0, 0⟩]
  names := ⟨#[0, 0x69, 0x6e, 0x69, 0x74, 0, 0x73, 0x74, 0x6f, 0x70, 0, 0x56, 0x31, 0, 0, 0]⟩

theorem sections_reorderedImage :
    Sections.read reorderedHeader reorderedImage = .ok reorderedSections :=
  (read_sections_append rfl (by decide : 6 ≠ 0) rfl (by decide +kernel) (by decide +kernel)).trans
    (by decide +kernel)

/-- What is read from the image. -/
def reorderedSymbols : VersionedSymbols where
  entries := [
    { index := 0, name := "", typeCode := 0, value := 0, bindingCode := 0, place := .undefined },
    { index := 1, name := "stop", typeCode := 2, value := 0x2000, version := ⟨"V1", true⟩ },
    { index := 2, name := "init", typeCode := 2, value := 0x1000 }]
  versions := ⟨[(2, "V1")], #[0, 2, 1]⟩
  dynamic := [⟨some "", 0, .undefined⟩, ⟨some "init", 0x1000, .inSection 1⟩,
    ⟨some "stop", 0x2000, .inSection 1⟩]

theorem versionedSymbols?_reorderedImage :
    versionedSymbols? reorderedImage = some reorderedSymbols := by
  rw [versionedSymbols?, layoutOf_eq (by decide +kernel) sections_reorderedImage]
  decide +kernel

/-- The rule at the image: neither side of the equivalence holds. -/
theorem versionsFollow_iff_reordered :
    versionedSymbols? reorderedImage = some reorderedSymbols ∧
      (reorderedSymbols.VersionsFollow ↔ reorderedSymbols.NumbersAgree) :=
  ⟨versionedSymbols?_reorderedImage,
    VersionedSymbols.versionsFollow_iff versionedSymbols?_reorderedImage⟩

/-- In the image `stop` has the version that is recorded for `init`. -/
theorem reordered_not_versionsFollow :
    versionedSymbols? reorderedImage = some reorderedSymbols ∧
      reorderedSymbols.entries.map (fun entry => (entry.name, entry.version.name)) =
        [("", ""), ("stop", "V1"), ("init", "")] ∧
      ¬reorderedSymbols.VersionsFollow :=
  ⟨versionedSymbols?_reorderedImage, by decide, by decide⟩

end Abiscope.Elf
