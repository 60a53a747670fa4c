import Abiscope.Elf.Bytes

/-!
# The header of an image

The first sixteen bytes say how the rest is laid out: with words of 32 or 64 bits, and in which byte
order. The header behind them gives the type and machine of the image and the places of its tables.
-/

namespace Abiscope.Elf

/-- What is wrong with the structure of an image. -/
inductive Fault where
  | tooShort
  | unknownMagic
  | headerSize
  | unsupportedHeader
  | sectionEntrySize
  | sectionTable
  | missingSections
  | missingNames
  | nameSection
  | nameSectionSize
  | sectionData
  | sectionIndex
  | stringSectionType
  | stringSectionSize
  | symbolTableType
  | symbolName
  | versionTable
  | versionName
  | dynamicText
  | programEntrySize
  | programTable
  | relocationTarget
deriving DecidableEq, Repr

/-- The text of a fault. -/
def Fault.message : Fault → String
  | tooShort => "Could not read file magic"
  | unknownMagic => "Unknown file magic"
  | headerSize => "Invalid ELF header size or alignment"
  | unsupportedHeader => "Unsupported ELF header"
  | sectionEntrySize => "Invalid ELF section header entry size"
  | sectionTable => "Invalid ELF section header offset/size/alignment"
  | missingSections => "Missing ELF section headers for e_phnum overflow"
  | missingNames => "Missing ELF e_shstrndx"
  | nameSection => "Invalid ELF e_shstrndx"
  | nameSectionSize => "Invalid ELF shstrtab size"
  | sectionData => "Invalid ELF section size or offset"
  | sectionIndex => "Invalid ELF section index"
  | stringSectionType => "Invalid ELF string section type"
  | stringSectionSize => "Invalid ELF string section offset or size"
  | symbolTableType => "Invalid ELF symbol table section type"
  | symbolName => "Invalid ELF symbol name offset"
  | versionTable => "Invalid ELF GNU version section"
  | versionName => "Invalid ELF GNU version name"
  | dynamicText => "Invalid ELF dyn string"
  | programEntrySize => "Invalid ELF program header entry size"
  | programTable => "Invalid ELF program header size or alignment"
  | relocationTarget => "Invalid ELF sh_info for relocation section"

/-- A value that has to be there. -/
def need {α : Type} (fault : Fault) : Option α → Except Fault α
  | some value => .ok value
  | none => .error fault

/-- How an image is laid out. -/
structure Format where
  /-- Whether addresses and offsets are words of 64 bits rather than 32. -/
  isWide : Bool
  order : ByteOrder
deriving DecidableEq, Repr

namespace Format

/-- The width of an address or offset in bytes. -/
def word (format : Format) : Nat := if format.isWide then 8 else 4

def headerSize (format : Format) : Nat := if format.isWide then 64 else 52

def sectionSize (format : Format) : Nat := if format.isWide then 64 else 40

def programSize (format : Format) : Nat := if format.isWide then 56 else 32

def symbolSize (format : Format) : Nat := if format.isWide then 24 else 16

def dynamicSize (format : Format) : Nat := 2 * format.word

end Format

/-- The header of an image. -/
structure Header where
  format : Format
  typeCode : Nat
  machine : Nat
  programOffset : Nat
  sectionOffset : Nat
  flags : Nat
  programEntrySize : Nat
  programCount : Nat
  sectionEntrySize : Nat
  sectionCount : Nat
  namesIndex : Nat
deriving Repr

namespace Header

/-- The type of an image that a linker has still to combine with others. -/
def relocatable : Nat := 1

/-- The machine whose functions may be reached through descriptors. -/
def powerPc64 : Nat := 21

/-- The widths of the fields behind the first sixteen bytes. -/
def widths (format : Format) : List Nat :=
  [2, 2, 4, format.word, format.word, format.word, 4, 2, 2, 2, 2, 2, 2]

/-- Whether the first bytes of an image are those of the format, and whether its words are wide. -/
def isWide? : List UInt8 → Option Bool
  | 0x7f :: 0x45 :: 0x4c :: 0x46 :: width :: _ =>
    if width == 1 then some false else if width == 2 then some true else none
  | _ => none

/-- The byte order behind the mark, in the only version of the format. -/
def order? : List UInt8 → Option ByteOrder
  | _ :: _ :: _ :: _ :: _ :: order :: version :: _ =>
    if version != 1 then none
    else if order == 1 then some .leastFirst
    else if order == 2 then some .mostFirst
    else none
  | _ => none

/-- Reads the header of an image. -/
def read (image : ByteArray) : Except Fault Header := do
  let opening ← need .tooShort (slice? image 0 16)
  let isWide ← need .unknownMagic (isWide? opening.data.toList)
  let order := order? opening.data.toList
  let format : Format := ⟨isWide, order.getD .leastFirst⟩
  if image.size < format.headerSize then throw .headerSize
  if order.isNone then throw .unsupportedHeader
  match numbers? format.order image 16 (widths format) with
  | some
      [typeCode, machine, _, _, programOffset, sectionOffset, flags, _, programEntrySize,
        programCount, sectionEntrySize, sectionCount, namesIndex] =>
    return {
      format, typeCode, machine, programOffset, sectionOffset, flags, programEntrySize,
      programCount, sectionEntrySize, sectionCount, namesIndex }
  | _ => throw .headerSize

/-- The name of the processor family of an image. Families that exist with words of either width are
told apart by it. -/
def architectureName (header : Header) : String :=
  match header.machine, header.format.isWide with
  | 62, true => "x86_64"
  | 183, true => "aarch64"
  | 21, _ => "ppc64"
  | 3, _ => "i386"
  | 40, _ => "arm"
  | 20, _ => "powerpc"
  | 243, true => "riscv64"
  | 22, true => "s390x"
  | _, _ => "unknown"

end Header

end Abiscope.Elf
