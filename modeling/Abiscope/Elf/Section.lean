import Abiscope.Elf.Header

/-!
# Sections

The section table of an image lists its parts with their types and places. The first entry is no
section; it holds numbers that do not fit into the header. Section names are texts in a section that the
header points at.
-/

namespace Abiscope.Elf

/-- An entry of the section table. `nameOffset` points into the section that holds the names. -/
structure Section where
  nameOffset : Nat
  type : Nat
  address : Nat
  offset : Nat
  size : Nat
  link : Nat
  info : Nat
  entrySize : Nat
deriving Repr

/-- The sections of an image, with the entry that is none, and the texts of their names. -/
structure Sections where
  all : Array Section := #[]
  names : ByteArray := ByteArray.empty

namespace Section

/-! ## Types of sections -/

def symbols : Nat := 2
def strings : Nat := 3
def relocationsWithAddends : Nat := 4
def dynamic : Nat := 6
def withoutData : Nat := 8
def relocations : Nat := 9
def dynamicSymbols : Nat := 11
def symbolSections : Nat := 18
def definedVersions : Nat := 0x6ffffffd
def neededVersions : Nat := 0x6ffffffe
def symbolVersions : Nat := 0x6fffffff

/-- Reads the entry at an offset. -/
def read? (format : Format) (image : ByteArray) (offset : Nat) : Option Section := do
  let word := format.word
  match ← numbers? format.order image offset [4, 4, word, word, word, word, 4, 4, word, word] with
  | [nameOffset, type, _, address, offset, size, link, info, _, entrySize] =>
    return { nameOffset, type, address, offset, size, link, info, entrySize }
  | _ => none

/-- The bytes of a section. -/
def data (part : Section) (image : ByteArray) : Except Fault ByteArray :=
  if part.type == withoutData then .ok ByteArray.empty
  else need .sectionData (slice? image part.offset part.size)

/-- The bytes of a section that is an array of records of some size, and how many there are. No bytes
may be left over. -/
def array (part : Section) (image : ByteArray) (size : Nat) : Except Fault (ByteArray × Nat) := do
  let bytes ← part.data image
  if bytes.size % size != 0 then throw .sectionData
  return (bytes, bytes.size / size)

/-- The texts in a place of an image. A place outside holds none. -/
def textsAt (image : ByteArray) (part : Section) (fault : Fault) : Except Fault ByteArray :=
  if part.offset + part.size < UInt64.size then
    .ok ((slice? image part.offset part.size).getD ByteArray.empty)
  else .error fault

end Section

namespace Sections

/-- The entry that is no section. -/
def first (header : Header) (image : ByteArray) : Except Fault Section :=
  if header.sectionEntrySize != header.format.sectionSize then .error .sectionEntrySize
  else need .sectionTable (Section.read? header.format image header.sectionOffset)

/-- How many entries the table has. -/
def count (header : Header) (image : ByteArray) : Except Fault Nat :=
  if header.sectionOffset == 0 then .ok 0
  else if header.sectionCount > 0 then .ok header.sectionCount
  else (first header image).map Section.size

/-- The mark of a number that does not fit into the header. -/
def overflow : Nat := 0xffff

/-- The place in the table of the section with the names. -/
def namesIndex (header : Header) (image : ByteArray) : Except Fault Nat := do
  let index ←
    if header.namesIndex != overflow then pure header.namesIndex
    else Section.link <$> first header image
  if index == 0 then throw .missingNames else return index

/-- The texts of the section names. -/
def namesOf (header : Header) (image : ByteArray) (all : Array Section) :
    Except Fault ByteArray := do
  let index ← namesIndex header image
  let part ← need .nameSection all[index]?
  if part.type == Section.withoutData then return ByteArray.empty
  else part.textsAt image .nameSectionSize

/-- Reads the section table of an image. An image may have none. -/
def read (header : Header) (image : ByteArray) : Except Fault Sections := do
  let count ← count header image
  if count == 0 then return {}
  if header.sectionEntrySize != header.format.sectionSize then throw .sectionEntrySize
  let size := header.format.sectionSize
  let table ← need .sectionTable (slice? image header.sectionOffset (count * size))
  let all ← (List.range count).mapM fun index =>
    need .sectionTable (Section.read? header.format table (index * size))
  return ⟨all.toArray, ← namesOf header image all.toArray⟩

/-- The sections with their places in the table. -/
def numbered (sections : Sections) : List (Section × Nat) := sections.all.toList.zipIdx.drop 1

/-- The first section of a type. -/
def ofType? (sections : Sections) (type : Nat) : Option (Section × Nat) :=
  sections.numbered.find? fun entry => entry.1.type == type

/-- The first section of a name. -/
def named? (sections : Sections) (name : String) : Option Section :=
  (sections.numbered.find? fun entry =>
    textAt? sections.names entry.1.nameOffset == some name).map Prod.fst

/-- The section at a place. -/
def section? (sections : Sections) (index : Nat) : Option Section :=
  if index == 0 then none else sections.all[index]?

/-- The texts in the section at a place. No section is at the first one, and so no texts. -/
def texts (sections : Sections) (image : ByteArray) (index : Nat) : Except Fault ByteArray := do
  if index == 0 then return ByteArray.empty
  let part ← need .sectionIndex (sections.section? index)
  if part.type != Section.strings then throw .stringSectionType
  part.textsAt image .stringSectionSize

end Sections

end Abiscope.Elf
