import Abiscope.Elf.Dynamic
import Abiscope.Elf.Integrity
import Abiscope.Elf.VersionTable
import Abiscope.Symbol.Table

/-!
# Reading binaries

The symbols of a binary come from its first symbol section. In images that a linker has still to
combine, addresses count from the start of their sections and are made unique by the places of the
sections in the image. Where functions are reached through descriptors, the address of the code is the
first word of the descriptor.
-/

namespace Abiscope.Elf

/-- Why the symbols of a binary cannot be read. -/
inductive ReadError where
  | damaged (fault : Fault)
  | noSymbolTable
  | emptyEntrySize
  | invalidSymbolTable (fault : Fault)
  | unreadableSymbol (index : Nat)
  | invalidEntries (error : Symbol.TableError)
deriving DecidableEq, Repr

/-- The text of an error. -/
def ReadError.message : ReadError → String
  | damaged fault => "Failed to parse ELF file: " ++ fault.message
  | noSymbolTable => "No symbol table found"
  | emptyEntrySize => "Invalid symtab header: sh_entsize is 0"
  | invalidSymbolTable fault => "Invalid symtab header: " ++ fault.message
  | unreadableSymbol index =>
    s!"Could not load symbol with index {index}: " ++ Fault.symbolName.message
  | invalidEntries error => error.message

/-- The section whose presence tells a kernel or a part of one. -/
def kernelSection : String := "__ksymtab_strings"

/-- The section with the descriptors of functions. -/
def descriptorSection : String := ".opd"

/-- Whether functions are reached through descriptors. The second version of the machine's conventions
does without them. -/
def usesDescriptors (header : Header) (sections : Sections) : Bool :=
  header.machine == Header.powerPc64 && header.flags % 4 != 2 &&
    (sections.named? descriptorSection).isSome

/-- The descriptors of functions: the address of the first one and their bytes. -/
structure Descriptors where
  address : Nat
  bytes : ByteArray

/-- The address of the code behind a descriptor. -/
def Descriptors.codeAddress? (descriptors : Descriptors) (order : ByteOrder) (value : Nat) :
    Option Nat :=
  if value < descriptors.address then none
  else number? order descriptors.bytes (value - descriptors.address) 8

/-- The descriptors of an image that uses them, if they can be read. -/
def descriptors? (header : Header) (image : ByteArray) (sections : Sections) :
    Option Descriptors := do
  if usesDescriptors header sections then
    let part ← sections.named? descriptorSection
    let bytes ← (part.data image).toOption
    return ⟨part.address, bytes⟩
  else none

/-- Where a symbol is defined. -/
def placeOf (record : SymbolRecord) : Symbol.Place :=
  if record.sectionIndex == SymbolRecord.undefinedIndex then .undefined
  else if record.sectionIndex == SymbolRecord.absoluteIndex then .absolute
  else if record.sectionIndex == SymbolRecord.commonIndex then .common
  else .inSection record.sectionIndex

/-- The address of a symbol, made unique where addresses count from the start of their sections. -/
def addressOf (header : Header) (sections : Sections) (record : SymbolRecord) : UInt64 :=
  match placeOf record with
  | .inSection index =>
    if header.typeCode == Header.relocatable then
      let start := ((sections.section? index).map Section.offset).getD 0
      UInt64.ofNat record.value + UInt64.ofNat start
    else UInt64.ofNat record.value
  | _ => UInt64.ofNat record.value

/-- The version of a symbol. The version of a symbol defined elsewhere is never the default one. -/
def versionOf (versions : Option VersionTable) (record : SymbolRecord) (index : Nat) :
    Symbol.Version :=
  match versions.bind fun table => table.version? index with
  | some (name, isHidden) => ⟨name, placeOf record != .undefined && !isHidden⟩
  | none => {}

/-- The type number of functions that may have a descriptor. -/
def functionCode : Nat := 2

/-- The entries of the symbol table of an image, and what kind of binary it is. -/
def entriesOf (header : Header) (image : ByteArray) (sections : Sections) :
    Except ReadError (List Symbol.Entry × Symbol.Flavor) := do
  let some (part, index) := sections.ofType? Section.symbols | throw .noSymbolTable
  if part.entrySize == 0 then throw .emptyEntrySize
  let found ←
    (SymbolSection.read header.format image sections part index).mapError .invalidSymbolTable
  let versions ← (VersionTable.read header.format image sections).mapError .invalidSymbolTable
  let descriptors := descriptors? header image sections
  let entries ← found.records.zipIdx.mapM fun (record, index) => do
    let some name := textAt? found.names record.nameOffset | throw (.unreadableSymbol index)
    let codeAddress :=
      if record.typeCode == functionCode then
        descriptors.bind fun table => table.codeAddress? header.format.order record.value
      else none
    return {
      index := index
      name := name
      typeCode := record.typeCode
      value := addressOf header sections record
      size := UInt64.ofNat record.size
      bindingCode := record.bindingCode
      visibilityCode := record.visibilityCode
      place := placeOf record
      version := versionOf versions record index
      codeAddress := codeAddress.map UInt64.ofNat : Symbol.Entry }
  let flavor : Symbol.Flavor :=
    ⟨(sections.named? kernelSection).isSome, usesDescriptors header sections⟩
  return (entries, flavor)

/-- The parts of an image that everything else is read from. -/
def layoutOf (image : ByteArray) : Except ReadError (Header × Sections) :=
  Except.mapError .damaged <| do
    let header ← Header.read image
    return (header, ← Sections.read header image)

/-- Reads the symbol table of a binary. The predicate suppresses symbols. -/
def symbolTable (image : ByteArray) (suppresses : Symbol → Bool) :
    Except ReadError Symbol.Table := do
  let (header, sections) ← layoutOf image
  let (entries, flavor) ← entriesOf header image sections
  (Symbol.Table.ofEntries entries flavor suppresses).mapError .invalidEntries

/-- What a binary tells about itself apart from its symbols. -/
structure Identity where
  dynamic : DynamicFacts
  architecture : String
deriving Repr

/-- Reads what a sound binary tells about itself. -/
def identity (image : ByteArray) : Except ReadError Identity := do
  let (header, sections) ← layoutOf image
  let dynamic ← (DynamicFacts.read header.format image sections).mapError .damaged
  (check header image sections).mapError .damaged
  return ⟨dynamic, header.architectureName⟩

end Abiscope.Elf
