import Abiscope.Pattern.Meaning
import Abiscope.Pattern.Parser

/-!
# Patterns in suppressions

A pattern is a text that may be empty, which means that there is no pattern, or malformed. A pattern
that is empty or malformed is not usable: whoever asks for it goes on as if it were not there.
-/

namespace Abiscope

/-- The machine of a pattern, if its text is one and its machine is not too large. -/
def Pattern.compile? (source : String) : Option Pattern.Machine := do
  let expr ← Pattern.Expr.ofText? source
  let (machine, _) ← expr.machine? {}
  if machine.room ≤ Pattern.roomLimit then some machine else none

/-- The machine of a pattern text that is not empty. -/
def Pattern.usable? (source : String) : Option Pattern.Machine :=
  if source == "" then none else Pattern.compile? source

/-- A pattern as it was written, together with its machine if it is usable. -/
structure Pattern where
  source : String
  usable : Option Pattern.Machine
  usable_eq : usable = Pattern.usable? source

namespace Pattern

def ofText (source : String) : Pattern := ⟨source, usable? source, rfl⟩

/-- No pattern. -/
def absent : Pattern := ofText ""

instance : Inhabited Pattern := ⟨absent⟩

/-- Whether a pattern was written, well-formed or not. -/
def isSet (pattern : Pattern) : Bool := pattern.source != ""

/-- Whether a pattern is well-formed. An absent one is. -/
def isWellFormed (pattern : Pattern) : Bool := !pattern.isSet || pattern.usable.isSome

/-- Whether a usable pattern matches anywhere in a text; nothing if the pattern is not usable. -/
def matches? (pattern : Pattern) (text : String) : Option Bool :=
  pattern.usable.map fun machine => machine.matchesIn text.toList.toArray

/-- An absent pattern is not usable. -/
theorem usable_absent : absent.usable = none := rfl

/-- A pattern that was not written decides nothing. -/
theorem matches?_of_not_isSet {pattern : Pattern} (missing : pattern.isSet = false) (text : String) :
    pattern.matches? text = none := by
  have empty : pattern.source = "" := bne_eq_false_iff_eq.mp missing
  rw [matches?, pattern.usable_eq, empty]
  rfl

end Pattern

end Abiscope
