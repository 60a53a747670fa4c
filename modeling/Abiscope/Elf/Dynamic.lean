import Abiscope.Elf.Section

/-!
# Dynamic sections

A dynamic section tells the loader by which name an image goes and which libraries it needs. Entries are
pairs of a tag and a value; the empty tag ends them.
-/

namespace Abiscope.Elf

/-- What an image tells the loader. -/
structure DynamicFacts where
  soname : Option String := none
  needed : List String := []
deriving DecidableEq, Repr

namespace DynamicFacts

/-! ## Tags -/

def endTag : Nat := 0
def neededTag : Nat := 1
def sonameTag : Nat := 14

/-- The entries of a dynamic section. -/
def entriesOf (format : Format) (bytes : ByteArray) (count : Nat) : List (Nat × Nat) :=
  (List.range count).filterMap fun place =>
    match numbers? format.order bytes (place * format.dynamicSize) [format.word, format.word] with
    | some [tag, value] => some (tag, value)
    | _ => none

/-- The text of an entry, whose value has to fit into 32 bits. -/
def textOf (names : ByteArray) (value : Nat) : Except Fault String :=
  need .dynamicText (if value < UInt32.size then textAt? names value else none)

/-- Takes in an entry. A later name replaces an earlier one. -/
def take (names : ByteArray) (facts : DynamicFacts) (entry : Nat × Nat) :
    Except Fault DynamicFacts := do
  if entry.1 == sonameTag then return { facts with soname := some (← textOf names entry.2) }
  else if entry.1 == neededTag then
    return { facts with needed := facts.needed ++ [← textOf names entry.2] }
  else return facts

/-- Reads every dynamic section of an image. An image may have none. -/
def read (format : Format) (image : ByteArray) (sections : Sections) :
    Except Fault DynamicFacts :=
  sections.numbered.foldlM
    (fun facts (part, _) => do
      if part.type != Section.dynamic then return facts
      let (bytes, count) ← part.array image format.dynamicSize
      let entries := entriesOf format bytes count
      let names ← sections.texts image part.link
      (entries.takeWhile (·.1 != endTag)).foldlM (take names) facts)
    {}

end DynamicFacts

end Abiscope.Elf
