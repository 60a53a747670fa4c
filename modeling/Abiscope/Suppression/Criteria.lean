import Abiscope.Pattern

/-!
# Criteria of suppressions

A suppression says which reported changes are expected. It applies to a binary by the name that the
binary gives itself and by the path of its file, and to a change by criteria on what changed. A
criterion counts as present when its text is not empty, even if the text is a malformed pattern; but a
malformed pattern never decides anything.
-/

namespace Abiscope.Suppression

/-- The kinds of change that a suppression is about. -/
structure Changes where
  subtype : Bool := true
  added : Bool := true
  deleted : Bool := true
deriving DecidableEq, Repr

namespace Changes

/-- Changes inside something that is there on both sides. -/
def onlySubtype : Changes := ⟨true, false, false⟩

def onlyAdded : Changes := ⟨false, true, false⟩

def onlyDeleted : Changes := ⟨false, false, true⟩

/-- Whether two sets of kinds have one in common. -/
def meets (left right : Changes) : Bool :=
  (left.subtype && right.subtype) || (left.added && right.added) || (left.deleted && right.deleted)

end Changes

/-- Whether an exact text was given. -/
def isGiven (exact : Option String) : Bool := exact.any (· != "")

/-- A pattern that has to match and a pattern that must not. -/
structure PatternPair where
  only : Pattern := Pattern.absent
  except : Pattern := Pattern.absent

namespace PatternPair

def isSet (pair : PatternPair) : Bool := pair.only.isSet || pair.except.isSet

/-- Whether neither usable pattern objects to a text. -/
def permits (pair : PatternPair) (text : String) : Bool :=
  (pair.only.matches? text).getD true && !(pair.except.matches? text).getD false

/-- Whether a text satisfies both patterns, of which one has to be usable. -/
def accepts (pair : PatternPair) (text : String) : Bool :=
  (pair.only.usable.isSome || pair.except.usable.isSome) && pair.permits text

end PatternPair

/-- What a suppression says about itself and about the binary it is for. -/
structure Header where
  label : String := ""
  isArtificial : Bool := false
  /-- Whether what is suppressed is left out already when a binary is read. -/
  drops : Bool := false
  fileName : PatternPair := {}
  soname : PatternPair := {}

/-- The names of a binary that suppressions ask for. -/
structure Binary where
  soname : String := ""
  path : String := ""
deriving DecidableEq, Repr

namespace Header

/-- Whether a suppression is for a binary. A pair of patterns that is not set does not matter. -/
def concerns (header : Header) (binary : Binary) : Bool :=
  (!header.soname.isSet || header.soname.accepts binary.soname) &&
    (!header.fileName.isSet || header.fileName.accepts binary.path)

/-- Whether a suppression is for some binaries only. -/
def isConfined (header : Header) : Bool := header.soname.isSet || header.fileName.isSet

/-- The patterns about the binary with the names of their properties. -/
def patterns (header : Header) : List (String × Pattern) :=
  [("file_name_regexp", header.fileName.only),
    ("file_name_not_regexp", header.fileName.except),
    ("soname_regexp", header.soname.only),
    ("soname_not_regexp", header.soname.except)]

end Header

/-- Criteria on a name: a pattern that decides first, then one that must not match, then the name
itself. -/
structure NameCriteria where
  exact : Option String := none
  patterns : PatternPair := {}

namespace NameCriteria

def isPresent (criteria : NameCriteria) : Bool := isGiven criteria.exact || criteria.patterns.isSet

/-- Whether the first criterion that can decide accepts a name. -/
def accepts (criteria : NameCriteria) (name : String) : Bool :=
  match criteria.patterns.only.matches? name with
  | some found => found
  | none =>
    match criteria.patterns.except.matches? name with
    | some found => !found
    | none => isGiven criteria.exact && criteria.exact == some name

end NameCriteria

/-- Criteria on a version or a type: a pattern, or else the text itself. -/
structure TextCriteria where
  exact : Option String := none
  pattern : Pattern := Pattern.absent

namespace TextCriteria

def isPresent (criteria : TextCriteria) : Bool := isGiven criteria.exact || criteria.pattern.isSet

/-- Whether the criteria accept a text. Criteria that cannot decide accept everything. -/
def permits (criteria : TextCriteria) (text : String) : Bool :=
  match criteria.pattern.matches? text with
  | some found => found
  | none => !isGiven criteria.exact || criteria.exact == some text

/-- Whether the criteria accept a text. Criteria that cannot decide accept nothing. -/
def demands (criteria : TextCriteria) (text : String) : Bool :=
  match criteria.pattern.matches? text with
  | some found => found
  | none => isGiven criteria.exact && criteria.exact == some text

end TextCriteria

end Abiscope.Suppression
