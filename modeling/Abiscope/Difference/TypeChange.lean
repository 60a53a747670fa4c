import Abiscope.TypeGraph.Naming

/-!
# Changes of a type

What can differ between two types themselves, apart from the types inside them: sort, name, size,
completeness, members, enumerators and the like. Members and enumerators are matched by name, and
several of one name by the first of them. Of a record that is only declared on one side nothing but the
declaration is compared.
-/

namespace Abiscope

/-- A change of a type. Sizes and offsets are in bits. -/
inductive TypeChange where
  | sort (old new : String)
  | renamed (old new : String)
  | resized (old new : UInt64)
  | completeness (isDeclaration : Bool)
  | requalified (old new : Qualifiers)
  | referenceSort (isRvalue : Bool)
  | arrayBound (old new : Option UInt64)
  | memberAdded (name type : String) (offset : UInt64)
  | memberRemoved (name type : String) (offset : UInt64)
  | memberMoved (name : String) (old new : UInt64)
  | enumeratorAdded (name : String) (value : Int)
  | enumeratorRemoved (name : String) (value : Int)
  | enumeratorRevalued (name : String) (old new : Int)
  | parameterCount (old new : Nat)
  | variadic (isVariadic : Bool)
deriving DecidableEq, Repr

namespace TypeChange

/-- The bound of an array as it is shown. -/
def boundText : Option UInt64 → String
  | some count => toString count.toNat
  | none => "unknown"

/-- A change in words. -/
def text : TypeChange → String
  | sort old new => s!"type kind changed from {old} to {new}"
  | renamed old new => s!"type name changed from '{old}' to '{new}'"
  | resized old new => s!"type size changed from {old.toNat} to {new.toNat} (in bits)"
  | completeness true => "type became declaration-only"
  | completeness false => "type is no longer declaration-only"
  | requalified old new => s!"qualifiers changed from '{old.spelling}' to '{new.spelling}'"
  | referenceSort true => "lvalue reference became rvalue reference"
  | referenceSort false => "rvalue reference became lvalue reference"
  | arrayBound old new => s!"array bound changed from {boundText old} to {boundText new}"
  | memberAdded name type offset =>
    s!"data member '{type} {name}' inserted at offset {offset.toNat} (in bits)"
  | memberRemoved name type offset =>
    s!"data member '{type} {name}' at offset {offset.toNat} (in bits) removed"
  | memberMoved name old new =>
    s!"data member '{name}' offset changed from {old.toNat} to {new.toNat} (in bits)"
  | enumeratorAdded name value => s!"enumerator '{name}' ({value}) inserted"
  | enumeratorRemoved name value => s!"enumerator '{name}' ({value}) removed"
  | enumeratorRevalued name old new => s!"enumerator '{name}' value changed from {old} to {new}"
  | parameterCount old new => s!"parameter count changed from {old} to {new}"
  | variadic true => "function type became variadic"
  | variadic false => "function type is no longer variadic"

/-- A change that is there only if two values differ. -/
def ifDiffer {α : Type} [BEq α] (old new : α) (change : α → α → TypeChange) : List TypeChange :=
  if old == new then [] else [change old new]

end TypeChange

open TypeChange (ifDiffer)

/-- The member that a name stands for. -/
def Record.member? (record : Record) (name : String) : Option Member :=
  record.members.find? fun member => member.name == name

/-- The enumerator that a name stands for. -/
def Enumeration.enumerator? (enumeration : Enumeration) (name : String) : Option Enumerator :=
  enumeration.enumerators.find? fun enumerator => enumerator.name == name

/-- Whether the layout of both records is known. -/
def Record.bothComplete (old new : Record) : Bool := !old.isDeclaration && !new.isDeclaration

namespace TypeGraph

/-- The changes of the members of a record, first those of the old members, then what was added. -/
def memberChanges (first second : TypeGraph) (old new : Record) : List TypeChange :=
  (old.members.flatMap fun member =>
    match new.member? member.name with
    | none => [.memberRemoved member.name (first.name member.type) member.offset]
    | some counterpart =>
      ifDiffer member.offset counterpart.offset (.memberMoved member.name)) ++
  new.members.filterMap fun member =>
    if (old.member? member.name).isNone then
      some (.memberAdded member.name (second.name member.type) member.offset)
    else none

/-- The changes of a record itself. -/
def recordChanges (first second : TypeGraph) (old new : Record) : List TypeChange :=
  ifDiffer old.kind new.kind (fun old new => .sort old.keyword new.keyword) ++
    ifDiffer old.name new.name .renamed ++
    ifDiffer old.isDeclaration new.isDeclaration (fun _ new => .completeness new) ++
    if old.bothComplete new then
      ifDiffer old.size new.size .resized ++ memberChanges first second old new
    else []

/-- The changes of the enumerators of an enumeration, first those of the old ones, then what was
added. -/
def enumeratorChanges (old new : Enumeration) : List TypeChange :=
  (old.enumerators.flatMap fun enumerator =>
    match new.enumerator? enumerator.name with
    | none => [.enumeratorRemoved enumerator.name enumerator.value]
    | some counterpart =>
      ifDiffer enumerator.value counterpart.value (.enumeratorRevalued enumerator.name)) ++
  new.enumerators.filterMap fun enumerator =>
    if (old.enumerator? enumerator.name).isNone then
      some (.enumeratorAdded enumerator.name enumerator.value)
    else none

/-- The changes of a pair of types, one from each graph, apart from the types inside them. -/
def localChanges (first second : TypeGraph) (old new : Nat) : List TypeChange :=
  match first.node old, second.node new with
  | .void, .void => []
  | .builtin oldName oldSize, .builtin newName newSize =>
    ifDiffer oldName newName .renamed ++ ifDiffer oldSize newSize .resized
  | .pointer _, .pointer _ => []
  | .reference _ oldRvalue, .reference _ newRvalue =>
    ifDiffer oldRvalue newRvalue fun _ new => .referenceSort new
  | .qualified _ oldQualifiers, .qualified _ newQualifiers =>
    ifDiffer oldQualifiers newQualifiers .requalified
  | .typeAlias oldName _ _, .typeAlias newName _ _ => ifDiffer oldName newName .renamed
  | .array _ oldCount, .array _ newCount => ifDiffer oldCount newCount .arrayBound
  | .record old, .record new => recordChanges first second old new
  | .enumeration old, .enumeration new =>
    ifDiffer old.name new.name .renamed ++ ifDiffer old.size new.size .resized ++
      enumeratorChanges old new
  | .function old, .function new =>
    ifDiffer old.parameters.length new.parameters.length .parameterCount ++
      ifDiffer old.isVariadic new.isVariadic fun _ new => .variadic new
  | old, new => [.sort old.shape new.shape]

end TypeGraph

end Abiscope
