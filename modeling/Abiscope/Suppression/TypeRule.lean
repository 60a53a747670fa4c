import Abiscope.Suppression.Criteria
import Abiscope.TypeGraph.Basic

/-!
# Suppressions of types

A rule about types applies to a change of a type when every criterion that is present accepts: on the
name, the place of the declaration, the sort of type, the way in which the type is reached, the offsets
at which members were inserted and the enumerators whose values changed. Without any criterion it
applies to nothing.
-/

namespace Abiscope

/-- How a type is reached from a function or variable: through a pointer, else through a reference,
else directly. -/
inductive Reach where
  | direct
  | pointer
  | reference
deriving DecidableEq, Repr

namespace Suppression

/-- The ways of being reached that a rule asks for. -/
inductive ReachKind where
  | direct
  | pointer
  | reference
  | indirect
deriving DecidableEq, Repr

namespace ReachKind

/-- The ways that a word asks for. -/
def ofWord? : String → Option ReachKind
  | "direct" => some direct
  | "pointer" => some pointer
  | "reference" => some reference
  | "reference-or-pointer" | "indirect" => some indirect
  | _ => none

def admits : ReachKind → Reach → Bool
  | direct, reach => reach == .direct
  | pointer, reach => reach == .pointer
  | reference, reach => reach == .reference
  | indirect, reach => reach != .direct

end ReachKind

/-- An end of a range of offsets: an offset, or the end of the type. -/
inductive Boundary where
  | offset (bits : UInt64)
  | endOfType
deriving DecidableEq, Repr

/-- A range of offsets, both ends included. -/
structure InsertionRange where
  first : Boundary
  last : Boundary
deriving DecidableEq, Repr

/-- Whether a range contains an offset in a type of some size. The end of the type is its size as the
lower end of a range; as the upper end it is no limit. -/
def InsertionRange.contains (range : InsertionRange) (offset size : UInt64) : Bool :=
  let first := match range.first with
    | .offset bits => bits
    | .endOfType => size
  let reachesLast := match range.last with
    | .offset bits => offset ≤ bits
    | .endOfType => true
  first ≤ offset && reachesLast

/-- What is known about a change of a type. Offsets are there when members were inserted and nothing
else changed but the size, enumerators when only enumerators changed. -/
structure TypeFacts where
  name : String
  kind : Option TypeKind := none
  location : Option SourceLocation := none
  reach : Reach := .direct
  size : UInt64 := 0
  inserted : Option (List UInt64) := none
  enumerators : Option (List String) := none

/-- A rule about types. -/
structure TypeRule where
  header : Header := {}
  name : Option String := none
  namePatterns : PatternPair := {}
  kind : Option TypeKind := none
  reach : Option ReachKind := none
  insertions : List InsertionRange := []
  /-- Files whose declarations are not suppressed, by name or by path. -/
  keptFiles : List String := []
  keptFilePattern : Pattern := Pattern.absent
  enumerators : List String := []

namespace TypeRule

/-- The label of the rule that hides every type declared outside the public headers. -/
def privateTypesLabel : String := "Artificial private types suppression specification"

/-- The rule that hides every type declared outside some headers, which are known by their names
without directories. -/
def privateTypes (headers : List String) : TypeRule where
  header := { label := privateTypesLabel, isArtificial := true, drops := true }
  keptFiles := headers.map fun header => SourceLocation.baseName { file := header }

/-- Whether a rule goes by the label of the one that hides private types. -/
def hidesPrivateTypes (rule : TypeRule) : Bool := rule.header.label == privateTypesLabel

def hasNameCriteria (rule : TypeRule) : Bool := isGiven rule.name || rule.namePatterns.isSet

def hasLocationCriteria (rule : TypeRule) : Bool :=
  !rule.keptFiles.isEmpty || rule.keptFilePattern.isSet

def hasCriteria (rule : TypeRule) : Bool :=
  rule.hasNameCriteria || rule.hasLocationCriteria || rule.kind.isSome || rule.reach.isSome ||
    !rule.insertions.isEmpty || !rule.enumerators.isEmpty || rule.header.isConfined

/-- Whether a rule accepts the name of a type: the name that was given, or else the patterns. -/
def acceptsName (rule : TypeRule) (name : String) : Bool :=
  if isGiven rule.name then rule.name == some name else rule.namePatterns.permits name

/-- Whether a rule accepts the place of a declaration. An unknown place is accepted only by a rule
that does not ask for it. -/
def acceptsLocation (rule : TypeRule) : Option SourceLocation → Bool
  | none => !rule.hasLocationCriteria
  | some location =>
    !(rule.keptFilePattern.matches? location.file).getD false &&
      !rule.keptFiles.contains location.baseName && !rule.keptFiles.contains location.file

/-- Whether every inserted member lies in a range. A rule with ranges needs insertions. -/
def acceptsInsertions (rule : TypeRule) (facts : TypeFacts) : Bool :=
  rule.insertions.isEmpty ||
    facts.inserted.any fun offsets =>
      !offsets.isEmpty &&
        offsets.all fun offset => rule.insertions.any fun range => range.contains offset facts.size

/-- Whether every changed enumerator is listed. -/
def acceptsEnumerators (rule : TypeRule) (facts : TypeFacts) : Bool :=
  rule.enumerators.isEmpty || facts.enumerators.any fun names => names.all rule.enumerators.contains

/-- Whether a rule suppresses a change of a type. -/
def suppresses (rule : TypeRule) (binary : Binary) (facts : TypeFacts) : Bool :=
  rule.hasCriteria && rule.header.concerns binary &&
    rule.kind.all (facts.kind == some ·) && rule.reach.all (·.admits facts.reach) &&
    rule.acceptsName facts.name && rule.acceptsLocation facts.location &&
    rule.acceptsInsertions facts && rule.acceptsEnumerators facts

/-- The patterns of a rule with the names of their properties. -/
def patterns (rule : TypeRule) : List (String × Pattern) :=
  rule.header.patterns ++
    [("name_regexp", rule.namePatterns.only),
      ("name_not_regexp", rule.namePatterns.except),
      ("source_location_not_regexp", rule.keptFilePattern)]

end TypeRule

end Suppression

end Abiscope
