import Abiscope.Elf.SymbolSection

/-!
# Whether an image is sound

An image is sound when its program headers, its two kinds of symbol sections and its relocation
sections can be read, whether or not anything else asks for them.
-/

namespace Abiscope.Elf

/-- The count of program headers from which on the real count stands in the section table. -/
def programOverflow : Nat := 0xffff

/-- How many program headers an image has. -/
def programCount (header : Header) (image : ByteArray) : Except Fault Nat :=
  if header.programCount < programOverflow then .ok header.programCount
  else if header.sectionOffset == 0 then .error .missingSections
  else (Sections.first header image).map Section.info

/-- Checks that the program headers lie inside the image. -/
def checkPrograms (header : Header) (image : ByteArray) : Except Fault Unit := do
  if header.programOffset == 0 then return
  let count ← programCount header image
  if count == 0 then return
  let size := header.format.programSize
  if header.programEntrySize != size then throw .programEntrySize
  let _ ← need .programTable (slice? image header.programOffset (count * size))

/-- Checks that the relocation sections for some symbols apply to sections of the image. Those that
apply to no section in particular do not matter. -/
def checkRelocations (sections : Sections) (symbols : Nat) : Except Fault Unit :=
  sections.all.toList.forM fun part =>
    if (part.type == Section.relocations || part.type == Section.relocationsWithAddends) &&
        part.link == symbols && part.info ≥ max 1 sections.all.size then
      .error .relocationTarget
    else .ok ()

/-- Checks that an image is sound. -/
def check (header : Header) (image : ByteArray) (sections : Sections) : Except Fault Unit := do
  checkPrograms header image
  let symbols ← SymbolSection.ofType header.format image sections Section.symbols
  let _ ← SymbolSection.ofType header.format image sections Section.dynamicSymbols
  checkRelocations sections symbols.index

end Abiscope.Elf
