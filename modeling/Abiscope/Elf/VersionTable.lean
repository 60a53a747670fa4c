import Abiscope.Elf.SymbolSection

/-!
# Versions of symbols

One section gives every symbol a version index with a mark for versions that are not the default. Two
more list the versions that the image defines and those that it needs from others, each as a chain of
groups with a chain of records in each group. The first record of a definition names the version that
is defined; every record of a need is a version. Indexes below two name no version.
-/

namespace Abiscope.Elf

/-- The versions of an image: the names by index, of which the first one counts, and the marked indexes
by symbol. -/
structure VersionTable where
  names : List (Nat × String) := []
  marks : Array Nat := #[]

namespace VersionTable

/-- The bit that marks a version as not the default. -/
def hiddenBit : Nat := 0x8000

/-- The last index that names no version. -/
def lastReserved : Nat := 1

/-- The flag of the definition that stands for the image itself. -/
def baseFlag : Nat := 1

/-- The index without the mark. -/
def plainIndex (mark : Nat) : Nat := mark % hiddenBit

/-- How the fields of groups and records are found: their widths, and the numbers of the fields that
hold the count, the place of the first record and the way to the next group. -/
structure Layout where
  widths : List Nat
  count : Nat
  records : Nat
  next : Nat

/-- Version, flags, index, count, hash, first record, next group. -/
def definition : Layout := ⟨[2, 2, 2, 2, 4, 4, 4], 3, 5, 6⟩

/-- Version, count, file, first record, next group. -/
def need : Layout := ⟨[2, 2, 4, 4, 4], 1, 3, 4⟩

/-- The groups of a chain from an offset on, each with its offset. A group has to lie inside, and so
does what it says of its first record and of the next group. The room bounds the length of the chain,
since every step goes forward. -/
def groups (order : ByteOrder) (bytes : ByteArray) (layout : Layout) :
    Nat → Nat → Except Fault (List (Nat × List Nat))
  | 0, _ => .ok []
  | room + 1, offset => do
    if offset == bytes.size then return []
    let fields ← Elf.need .versionTable (numbers? order bytes offset layout.widths)
    let next := fields.getD layout.next 0
    if offset + fields.getD layout.records 0 > bytes.size then throw .versionTable
    if next == 0 then return [(offset, fields)]
    if offset + next > bytes.size then throw .versionTable
    return (offset, fields) :: (← groups order bytes layout room (offset + next))

/-- The records of a chain, as many as its group counts. The last field leads to the next record and
has to stay inside. -/
def records (order : ByteOrder) (bytes : ByteArray) (widths : List Nat) :
    Nat → Nat → Except Fault (List (List Nat))
  | 0, _ => .ok []
  | count + 1, offset => do
    let fields ← Elf.need .versionTable (numbers? order bytes offset widths)
    let next := offset + fields.getLastD 0
    if next > bytes.size then throw .versionTable
    return fields :: (← records order bytes widths count next)

/-- The groups of a section with their records. At most `limit` records of a group are read. -/
def chains (order : ByteOrder) (bytes : ByteArray) (layout : Layout) (widths : List Nat)
    (limit : List Nat → Nat) : Except Fault (List (List Nat × List (List Nat))) := do
  let found ← groups order bytes layout (bytes.size + 1) 0
  found.mapM fun (offset, fields) => do
    let count := min (fields.getD layout.count 0) (limit fields)
    let first := offset + fields.getD layout.records 0
    return (fields, ← records order bytes widths count first)

/-- The name of a version under its index, unless the index names none. -/
def entry (names : ByteArray) (mark nameOffset : Nat) : Except Fault (List (Nat × String)) := do
  if plainIndex mark ≤ lastReserved then return []
  return [(plainIndex mark, ← Elf.need .versionName (textAt? names nameOffset))]

/-- The versions that an image defines. The image itself and reserved indexes need no records. -/
def defined (order : ByteOrder) (bytes names : ByteArray) : Except Fault (List (Nat × String)) := do
  let isNamed (fields : List Nat) : Bool :=
    (fields.getD 1 0) % 2 != baseFlag && plainIndex (fields.getD 2 0) > lastReserved
  let found ← chains order bytes definition [4, 4] fun fields => if isNamed fields then 1 else 0
  List.flatten <$> found.mapM fun (fields, records) =>
    match records with
    | [nameOffset, _] :: _ => entry names (fields.getD 2 0) nameOffset
    | _ => .ok []

/-- The versions that an image needs. The file of a need that has versions has to have a name. -/
def needed (order : ByteOrder) (bytes names : ByteArray) : Except Fault (List (Nat × String)) := do
  let found ← chains order bytes need [4, 2, 2, 4, 4] fun fields => fields.getD need.count 0
  List.flatten <$> found.mapM fun (fields, records) =>
    List.flatten <$> records.mapM fun record => do
      let added ← entry names (record.getD 2 0) (record.getD 3 0)
      if !added.isEmpty then
        let _ ← Elf.need .versionName (textAt? names (fields.getD 2 0))
      return added

/-- The data of the first section of a type, if there is one. -/
def dataOf (image : ByteArray) (sections : Sections) (type : Nat) : Except Fault ByteArray :=
  match sections.ofType? type with
  | some (part, _) => part.data image
  | none => .ok ByteArray.empty

/-- Reads the versions of an image. The texts of their names are those of the symbols that the marks
are for, and a later record takes precedence. -/
def read (format : Format) (image : ByteArray) (sections : Sections) :
    Except Fault (Option VersionTable) := do
  match sections.ofType? Section.symbolVersions with
  | none => return none
  | some (part, _) =>
    let (bytes, count) ← part.array image 2
    let marks := (List.range count).filterMap fun place =>
      number? format.order bytes (place * 2) 2
    let owner ← Elf.need .sectionIndex (sections.section? part.link)
    if owner.type != Section.symbols && owner.type != Section.dynamicSymbols then
      throw .symbolTableType
    let names := (← SymbolSection.read format image sections owner part.link).names
    let definitions ← dataOf image sections Section.definedVersions
    let needs ← dataOf image sections Section.neededVersions
    let defined ← defined format.order definitions names
    let needed ← needed format.order needs names
    return some ⟨(defined ++ needed).reverse, marks.toArray⟩

/-- The name of the version of a symbol, and whether the version is marked. -/
def version? (table : VersionTable) (index : Nat) : Option (String × Bool) :=
  let mark := table.marks.getD index 0
  (table.names.lookup (plainIndex mark)).map fun name => (name, mark ≥ hiddenBit)

end VersionTable

end Abiscope.Elf
