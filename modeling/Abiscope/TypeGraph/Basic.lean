import Abiscope.SourceLocation

/-!
# Type graphs

The types of a binary are the nodes of a graph. A node refers to other nodes by their numbers, so types
may refer to each other in circles. A number without a node stands for the type without values.
-/

namespace Abiscope

/-- What qualifies a type. -/
structure Qualifiers where
  isConst : Bool := false
  isVolatile : Bool := false
  isRestrict : Bool := false
deriving DecidableEq, Repr

/-- The words for qualifiers, in their fixed order. -/
def Qualifiers.words (qualifiers : Qualifiers) : List String :=
  (if qualifiers.isConst then ["const"] else []) ++
    (if qualifiers.isVolatile then ["volatile"] else []) ++
    (if qualifiers.isRestrict then ["restrict"] else [])

/-- Qualifiers as they are written in a type. -/
def Qualifiers.spelling (qualifiers : Qualifiers) : String := " ".intercalate qualifiers.words

/-- The kinds of records. -/
inductive RecordKind where
  | structRecord
  | classRecord
  | unionRecord
deriving DecidableEq, Repr

/-- The word that opens the declaration of a record. -/
def RecordKind.keyword : RecordKind → String
  | structRecord => "struct"
  | classRecord => "class"
  | unionRecord => "union"

/-- A member of a record. Its offset is in bits. -/
structure Member where
  name : String
  type : Nat
  offset : UInt64
deriving DecidableEq, Repr

/-- A record. Its size is in bits; of a record that is only declared nothing but the name is known. -/
structure Record where
  kind : RecordKind
  name : String
  size : UInt64 := 0
  members : List Member := []
  isDeclaration : Bool := false
  location : Option SourceLocation := none
deriving DecidableEq, Repr

/-- A named value of an enumeration. -/
structure Enumerator where
  name : String
  value : Int
deriving DecidableEq, Repr

/-- An enumeration. Its size is in bits. -/
structure Enumeration where
  name : String
  size : UInt64 := 0
  enumerators : List Enumerator := []
  location : Option SourceLocation := none
deriving DecidableEq, Repr

/-- The type of a function. -/
structure FunctionType where
  result : Nat
  parameters : List Nat := []
  isVariadic : Bool := false
deriving DecidableEq, Repr

/-- A type. Other types are given by their numbers. -/
inductive TypeNode where
  | void
  | builtin (name : String) (size : UInt64)
  | pointer (target : Nat)
  | reference (target : Nat) (isRvalue : Bool)
  | qualified (base : Nat) (qualifiers : Qualifiers)
  | typeAlias (name : String) (base : Nat) (location : Option SourceLocation)
  | array (element : Nat) (count : Option UInt64)
  | record (record : Record)
  | enumeration (enumeration : Enumeration)
  | function (function : FunctionType)
deriving DecidableEq, Repr

namespace TypeNode

/-- What sort of type a node is, in words. -/
def shape : TypeNode → String
  | void => "void"
  | builtin .. => "builtin type"
  | pointer .. => "pointer type"
  | reference .. => "reference type"
  | qualified .. => "qualified type"
  | typeAlias .. => "typedef"
  | array .. => "array type"
  | record declared => declared.kind.keyword
  | enumeration _ => "enum"
  | function _ => "function type"

/-- Where a type was declared. -/
def location? : TypeNode → Option SourceLocation
  | record declared => declared.location
  | enumeration declared => declared.location
  | typeAlias _ _ location => location
  | _ => none

end TypeNode

/-- The sorts of types that can be asked for by a word. -/
inductive TypeKind where
  | classType
  | structType
  | unionType
  | enumType
  | arrayType
  | aliasType
  | builtinType
deriving DecidableEq, Repr

namespace TypeKind

/-- The word for a sort of types. -/
def word : TypeKind → String
  | classType => "class"
  | structType => "struct"
  | unionType => "union"
  | enumType => "enum"
  | arrayType => "array"
  | aliasType => "typedef"
  | builtinType => "builtin"

/-- The sort of types that a word asks for. -/
def ofWord? : String → Option TypeKind
  | "class" => some classType
  | "struct" => some structType
  | "union" => some unionType
  | "enum" => some enumType
  | "array" => some arrayType
  | "typedef" => some aliasType
  | "builtin" => some builtinType
  | _ => none

/-- Every sort is asked for by its own word. -/
theorem ofWord?_word (kind : TypeKind) : ofWord? kind.word = some kind := by
  cases kind <;> rfl

/-- The sort of a type, if it is one that can be asked for. -/
def ofNode? : TypeNode → Option TypeKind
  | .record record =>
    match record.kind with
    | .structRecord => some structType
    | .classRecord => some classType
    | .unionRecord => some unionType
  | .enumeration _ => some enumType
  | .array .. => some arrayType
  | .typeAlias .. => some aliasType
  | .builtin .. => some builtinType
  | _ => none

end TypeKind

/-- The types of a binary. Pointers and references have one size, in bits. -/
structure TypeGraph where
  nodes : Array TypeNode := #[]
  pointerSize : UInt64 := 64

namespace TypeGraph

def size (graph : TypeGraph) : Nat := graph.nodes.size

/-- The type of a number. -/
def node (graph : TypeGraph) (id : Nat) : TypeNode := graph.nodes.getD id .void

/-- Adds a type. Its number is the size of the graph before. -/
def add (graph : TypeGraph) (type : TypeNode) : TypeGraph :=
  { graph with nodes := graph.nodes.push type }

/-- Puts a type in the place of another. This is how circles of types are closed. -/
def replace (graph : TypeGraph) (id : Nat) (type : TypeNode) : TypeGraph :=
  { graph with nodes := graph.nodes.setIfInBounds id type }

/-- A number without a node stands for the type without values. -/
theorem node_of_size_le {graph : TypeGraph} {id : Nat} (outside : graph.size ≤ id) :
    graph.node id = .void := by
  simp [node, Array.getD_eq_getD_getElem?, Array.getElem?_eq_none (show graph.nodes.size ≤ id from outside)]

/-- Any other type has a node. -/
theorem lt_size_of_node_ne {graph : TypeGraph} {id : Nat} (differs : graph.node id ≠ .void) :
    id < graph.size :=
  Nat.lt_of_not_le fun outside => differs (node_of_size_le outside)

/-- The numbers of the types that a type refers to. -/
def references (graph : TypeGraph) (id : Nat) : List Nat :=
  match graph.node id with
  | .pointer target | .reference target _ => [target]
  | .qualified base _ | .typeAlias _ base _ => [base]
  | .array element _ => [element]
  | .record record => record.members.map Member.type
  | .function function => function.result :: function.parameters
  | .void | .builtin .. | .enumeration _ => []

end TypeGraph

end Abiscope
