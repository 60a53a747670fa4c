import Abiscope.Symbol.AliasIndex
import Abiscope.Symbol.Selection

/-!
# Symbol tables

A table holds the functions and variables among the entries of a binary, in the order of the binary,
and finds them by name and by address. A symbol goes by its place in the table.

* Entries without a name, of other kinds, and absolute data are left out. In a kernel, an entry whose
  name opens with the marker text is no symbol but marks the symbol named behind the marker as exported.
* Symbols that a predicate suppresses keep their place and can be looked up, but are not listed.
* Listed symbols are in ascending order of their id strings, ties in the order of the table.
* Defined symbols that are not common and share an address are aliases. The first of them is the main
  one.
* Common symbols of one name are instances of one variable: they are linked to the first symbol of the
  name if that is common.
* Where functions are reached through descriptors, a function is also found by the address of its code,
  and a plain name takes precedence over the same name behind a dot.
-/

namespace Abiscope.Symbol

/-- Where an entry of a binary is defined. -/
inductive Place where
  | undefined
  | absolute
  | common
  | inSection (index : Nat)
deriving DecidableEq, Repr

/-- An entry as a binary has it, with the numbers that stand for its type, binding and visibility, and
the address of the code if `value` is that of a descriptor. -/
structure Entry where
  index : Nat
  name : String
  typeCode : Nat
  value : UInt64
  size : UInt64 := 0
  bindingCode : Nat := 1
  visibilityCode : Nat := 0
  place : Place := .inSection 1
  version : Version := {}
  codeAddress : Option UInt64 := none
deriving DecidableEq, Repr

namespace Entry

/-- Functions and variables are kept, but for variables at absolute addresses. -/
def isKept (entry : Entry) : Bool :=
  match Kind.ofCode entry.typeCode with
  | .function | .indirectFunction | .threadLocal => true
  | .object => entry.place != .absolute
  | _ => false

/-- The symbol of an entry. -/
def toSymbol (entry : Entry) : Symbol where
  index := entry.index
  name := entry.name
  size := entry.size
  kind := Kind.ofCode entry.typeCode
  binding := Binding.ofCode entry.bindingCode
  visibility := Visibility.ofCode entry.visibilityCode
  version := entry.version
  isDefined := entry.place != .undefined
  isCommon := entry.place == .common
  address :=
    if entry.place == .undefined || entry.place == .common then none else some ⟨entry.value⟩

end Entry

/-- What kind of binary a table comes from. -/
structure Flavor where
  isKernel : Bool := false
  usesDescriptors : Bool := false
deriving DecidableEq, Repr

/-- Why a table cannot be built. -/
inductive TableError where
  | duplicateMarker (name : String)
  | duplicateName (name : String)
deriving DecidableEq, Repr

/-- The text of an error. -/
def TableError.message : TableError → String
  | duplicateMarker name => s!"duplicate ksymtab entry for {name}"
  | duplicateName name => s!"Duplicate symbol name in symbol maps: {name}"

/-- A table of symbols with the indexes that find them. -/
@[ext]
structure Table where
  symbols : Array Symbol := #[]
  /-- The listed places. -/
  listed : List Nat := []
  /-- Places by the name under which they are looked up. -/
  names : Groups String := ∅
  /-- The symbols of every address. -/
  aliasIndex : AliasIndex := {}
  /-- Functions by the address of their code. -/
  codeAddresses : Std.TreeMap Address Nat := ∅
  /-- The further instances of common symbols, by the places that they are linked to. -/
  instances : Groups Nat := ∅
  flavor : Flavor := {}
  /-- Whether any marker names an export of a kernel. -/
  hasExports : Bool := false

namespace Table

/-- The text that opens the name of a marker. -/
def markerText : String := "__ksymtab_"

/-- The name that an entry of a kernel marks as exported. -/
def markedName? (entry : Entry) : Option String :=
  (entry.name.dropPrefix? markerText).map fun name => name.toString

/-- The name that an entry marks as exported if it comes from a binary of some flavor. -/
def marker? (flavor : Flavor) (entry : Entry) : Option String :=
  if flavor.isKernel then markedName? entry else none

/-- Places in ascending order of the id strings of their symbols, ties in their given order. -/
def sortByIdString (symbols : Array Symbol) (ids : List Nat) : List Nat :=
  let keyed := ids.filterMap fun id => symbols[id]?.map fun symbol => (symbol.idString, id)
  (keyed.mergeSort fun left right => left.1 ≤ right.1).map Prod.snd

/-- Whether a plain name displaces the same name behind a dot. -/
def displaces (name holder : String) : Bool := holder == "." ++ name

/-- Records the code address of a function. A function that is recorded already stays, unless the new
name displaces it. -/
def addCodeAddress (symbols : Array Symbol) (index : Std.TreeMap Address Nat) (id : Nat)
    (address : Address) : Std.TreeMap Address Nat :=
  match index.get? address with
  | none => index.insert address id
  | some holder =>
    let nameOf id := (symbols[id]?.map Symbol.name).getD ""
    if displaces (nameOf id) (nameOf holder) then index.insert address id else index

/-- The symbol at a place. -/
def symbol? (table : Table) (id : Nat) : Option Symbol := table.symbols[id]?

/-- The places of the symbols that are looked up by a name, suppressed ones included. -/
def findName (table : Table) (name : String) : List Nat := table.names.get name

/-- Links a common symbol to the first symbol of its name, if that is another one and common too. -/
def linkInstance (symbols : Array Symbol) (names : Groups String) (instances : Groups Nat) (id : Nat)
    (name : String) : Groups Nat :=
  match names.get name with
  | [] => instances
  | first :: _ =>
    if first != id && symbols[first]?.any Symbol.isCommon then instances.add first id else instances

/-- Adds the symbol of an entry behind those that are there. The predicate that suppresses symbols is
asked before the address is recorded. -/
def addEntry (suppresses : Symbol → Bool) (table : Table) (entry : Entry) : Table :=
  let id := table.symbols.size
  let symbol := entry.toSymbol
  let symbols := table.symbols.push
    { symbol with isSuppressed := suppresses { symbol with address := none } }
  let names := table.names.add symbol.name id
  { table with
    symbols := symbols
    names := names
    aliasIndex :=
      match symbol.address with
      | some address => table.aliasIndex.record id address
      | none => table.aliasIndex
    codeAddresses :=
      if table.flavor.usesDescriptors && symbol.address.isSome && symbol.isFunction then
        addCodeAddress symbols table.codeAddresses id ⟨entry.codeAddress.getD entry.value⟩
      else table.codeAddresses
    instances :=
      if symbol.isCommon then linkInstance symbols names table.instances id symbol.name
      else table.instances }

/-- A table in the making, with the names that markers have named so far, the last one first. -/
structure Draft where
  table : Table
  exports : List String := []

/-- Reads a further entry. A marker is noted, and must not come a second time; of the other entries those
that are kept are added. -/
def Draft.read (suppresses : Symbol → Bool) (draft : Draft) (entry : Entry) :
    Except TableError Draft :=
  if entry.name == "" then .ok draft
  else
    match marker? draft.table.flavor entry with
    | some name =>
      if draft.exports.contains name then .error (.duplicateMarker name)
      else .ok { draft with exports := name :: draft.exports }
    | none =>
      if entry.isKept then .ok { draft with table := draft.table.addEntry suppresses entry }
      else .ok draft

/-- Marks a symbol of an exported name, if other binaries can bind to it. -/
def markExport (symbol : Symbol) : Symbol :=
  if symbol.isPublic then { symbol with isExported := true } else symbol

/-- Marks the symbols of exported names, which are found by their names. -/
def withExports (table : Table) (exports : List String) : Table :=
  { table with
    symbols := (exports.flatMap table.findName).foldl (fun symbols id => symbols.modify id markExport)
      table.symbols
    hasExports := !exports.isEmpty }

/-- Lists the symbols that are not suppressed. -/
def sorted (table : Table) : Table :=
  { table with
    listed := sortByIdString table.symbols ((List.range table.symbols.size).filter fun id =>
      (table.symbol? id).any fun symbol => !symbol.isSuppressed) }

/-- Builds the table of a binary from its entries. Markers may come before or behind the symbols that they
mark, so symbols are marked once all entries are read. -/
def ofEntries (entries : List Entry) (flavor : Flavor) (suppresses : Symbol → Bool) :
    Except TableError Table :=
  (entries.foldlM (Draft.read suppresses) { table := { flavor := flavor } }).map fun draft =>
    (draft.table.withExports draft.exports).sorted

/-- Builds a table from symbols in their order and the names under which they are looked up. -/
def ofSymbols (symbols : List Symbol) (key : Symbol → String) : Table :=
  let ids := symbols.zipIdx.filterMap fun (symbol, id) =>
    if symbol.isSuppressed then none else some id
  { symbols := symbols.toArray
    listed := sortByIdString symbols.toArray ids
    names := Groups.ofKeys (fun symbol => some (key symbol)) symbols
    aliasIndex := AliasIndex.ofAddresses (symbols.map Symbol.address) }

/-- Builds a table from symbols under given names, first functions, then variables, each by ascending
name. No name may be in both. -/
def ofMaps (functions globals : Std.TreeMap String (List Symbol)) : Except TableError Table :=
  match globals.toList.find? fun entry => functions.contains entry.1 with
  | some entry => .error (.duplicateName entry.1)
  | none =>
    let keyed := (functions.toList ++ globals.toList).flatMap fun entry =>
      entry.2.map fun symbol => (entry.1, symbol)
    let symbols := keyed.map Prod.snd
    .ok { ofSymbols symbols Symbol.name with
      names := Groups.ofKeys (fun entry => some entry.1) keyed
      aliasIndex := {} }

/-- The places of the listed symbols that a selection accepts. -/
def select (table : Table) (selection : Selection) : List Nat :=
  table.listed.filter fun id => (table.symbol? id).any selection.accepts

/-- The symbols that other binaries can bind to: the public ones, and of a kernel only exported ones. -/
def interface (table : Table) : Selection :=
  { publicOnes := some true
    exportedOnes := if table.flavor.isKernel then some true else none }

/-- The first symbol at the address of a symbol. -/
def main (table : Table) (id : Nat) : Nat := table.aliasIndex.main id

/-- The other symbols at the address of a symbol, the main one first. -/
def aliases (table : Table) (id : Nat) : List Nat := table.aliasIndex.aliases id

/-- Whether two places are the same or hold symbols at one address. -/
def areAliases (table : Table) (left right : Nat) : Bool :=
  left == right || table.main left == table.main right

/-- The further instances of the common symbol that they are linked to. -/
def commonInstances (table : Table) (id : Nat) : List Nat := table.instances.get id

/-- The symbol found at an address. Code addresses come first where they are known. -/
def findAddress (table : Table) (address : Address) : Option Nat :=
  match table.codeAddresses.get? address with
  | some id => some id
  | none => table.aliasIndex.mains.get? address

/-- Whether a table has anything to offer: listed symbols, or in a kernel any marked export. -/
def hasSymbols (table : Table) : Bool :=
  if table.flavor.isKernel then table.hasExports else !table.listed.isEmpty

end Table

end Abiscope.Symbol
