import Abiscope.Elf.Section

/-!
# Symbol sections

A symbol section is an array of records with the texts of their names in the section it links to. A
record packs binding and type into one byte and the visibility into two bits of another.
-/

namespace Abiscope.Elf

/-- A record of a symbol section. -/
structure SymbolRecord where
  nameOffset : Nat
  value : Nat
  size : Nat
  info : Nat
  other : Nat
  sectionIndex : Nat
deriving Repr

namespace SymbolRecord

/-- The place of symbols that are defined elsewhere. -/
def undefinedIndex : Nat := 0

/-- The place of symbols whose value is no address of the image. -/
def absoluteIndex : Nat := 0xfff1

/-- The place of symbols that are still to be allocated. -/
def commonIndex : Nat := 0xfff2

def bindingCode (record : SymbolRecord) : Nat := record.info / 16

def typeCode (record : SymbolRecord) : Nat := record.info % 16

def visibilityCode (record : SymbolRecord) : Nat := record.other % 4

/-- Reads the record at an offset. Where words are wide, the small fields come before them. -/
def read? (format : Format) (bytes : ByteArray) (offset : Nat) : Option SymbolRecord := do
  if format.isWide then
    match ← numbers? format.order bytes offset [4, 1, 1, 2, 8, 8] with
    | [nameOffset, info, other, sectionIndex, value, size] =>
      return { nameOffset, value, size, info, other, sectionIndex }
    | _ => none
  else
    match ← numbers? format.order bytes offset [4, 4, 4, 1, 1, 2] with
    | [nameOffset, value, size, info, other, sectionIndex] =>
      return { nameOffset, value, size, info, other, sectionIndex }
    | _ => none

end SymbolRecord

/-- The records of a symbol section and the texts of their names. -/
structure SymbolSection where
  index : Nat := 0
  records : List SymbolRecord := []
  names : ByteArray := ByteArray.empty

namespace SymbolSection

/-- Reads a symbol section. Sections that extend it with further numbers have to be readable. -/
def read (format : Format) (image : ByteArray) (sections : Sections) (part : Section)
    (index : Nat) : Except Fault SymbolSection := do
  let size := format.symbolSize
  let (bytes, count) ← part.array image size
  let records := (List.range count).filterMap fun place =>
    SymbolRecord.read? format bytes (place * size)
  let names ← sections.texts image part.link
  sections.numbered.forM fun (other, _) => do
    if other.type == Section.symbolSections && other.link == index then
      let _ ← other.array image 4
  return ⟨index, records, names⟩

/-- Reads the first symbol section of a type. An image may have none. -/
def ofType (format : Format) (image : ByteArray) (sections : Sections) (type : Nat) :
    Except Fault SymbolSection :=
  match sections.ofType? type with
  | some (part, index) => read format image sections part index
  | none => .ok {}

end SymbolSection

end Abiscope.Elf
