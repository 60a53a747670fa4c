import Abiscope.Suppression.FunctionRule
import Abiscope.Suppression.TypeRule
import Abiscope.Suppression.VariableRule

/-!
# Lists of suppressions

A list of suppressions holds rules about functions, variables and types in the order in which they were
given. Of several rules that apply, the first one counts.
-/

namespace Abiscope

/-- A rule of any kind. -/
inductive Suppression where
  | aboutFunction (rule : Suppression.FunctionRule)
  | aboutVariable (rule : Suppression.VariableRule)
  | aboutType (rule : Suppression.TypeRule)

namespace Suppression

def header : Suppression → Header
  | aboutFunction rule => rule.header
  | aboutVariable rule => rule.header
  | aboutType rule => rule.header

def label (suppression : Suppression) : String := suppression.header.label

def hasCriteria : Suppression → Bool
  | aboutFunction rule => rule.hasCriteria
  | aboutVariable rule => rule.hasCriteria
  | aboutType rule => rule.hasCriteria

/-- The patterns of a rule with the names of their properties. -/
def patterns : Suppression → List (String × Pattern)
  | aboutFunction rule => rule.patterns
  | aboutVariable rule => rule.patterns
  | aboutType rule => rule.patterns

def functionRule? : Suppression → Option FunctionRule
  | aboutFunction rule => some rule
  | _ => none

def variableRule? : Suppression → Option VariableRule
  | aboutVariable rule => some rule
  | _ => none

def typeRule? : Suppression → Option TypeRule
  | aboutType rule => some rule
  | _ => none

/-- Rules together with the binary that they are judged for. -/
structure Context where
  suppressions : List Suppression := []
  binary : Binary := {}

namespace Context

def functionRules (context : Context) : List FunctionRule :=
  context.suppressions.filterMap functionRule?

def variableRules (context : Context) : List VariableRule :=
  context.suppressions.filterMap variableRule?

def typeRules (context : Context) : List TypeRule := context.suppressions.filterMap typeRule?

/-- Whether a rule counts when only rules that drop things may. -/
def counts (dropsOnly : Bool) (header : Header) : Bool := !dropsOnly || header.drops

/-- Whether a rule about a name accepts either name of something, which must not be empty. -/
def acceptsEither (name symbolName : NameCriteria) (own linkage : String) : Bool :=
  (own != "" && name.accepts own) || (linkage != "" && symbolName.accepts linkage)

/-- Whether a rule suppresses a function by its name or its symbol alone. -/
def suppressesFunction (context : Context) (name linkageName : String) (dropsOnly : Bool) : Bool :=
  context.functionRules.any fun rule =>
    counts dropsOnly rule.header && rule.header.concerns context.binary &&
      acceptsEither rule.name rule.symbolName name linkageName

/-- Whether a rule suppresses a variable by its name or its symbol alone. -/
def suppressesVariable (context : Context) (name linkageName : String) (dropsOnly : Bool) : Bool :=
  context.variableRules.any fun rule =>
    counts dropsOnly rule.header && rule.header.concerns context.binary &&
      acceptsEither rule.name rule.symbolName name linkageName

/-- Why a type is suppressed by its name and place alone. -/
inductive TypeReason where
  | filtered
  | privateType
deriving DecidableEq, Repr

/-- The first rule that suppresses a type by its name and place alone, and why. -/
def suppressesType? (context : Context) (name : String) (location : Option SourceLocation)
    (dropsOnly : Bool) : Option TypeReason :=
  let rule := context.typeRules.find? fun rule =>
    counts dropsOnly rule.header && rule.header.concerns context.binary && rule.hasCriteria &&
      rule.acceptsName name && rule.acceptsLocation location
  rule.map fun rule => if rule.hidesPrivateTypes then .privateType else .filtered

/-- Whether a symbol is suppressed by its name alone. -/
def suppressesSymbol (context : Context) (name : String) (kind : Symbol.Kind) : Bool :=
  if kind.isFunction then context.suppressesFunction "" name false
  else if kind.isVariable then context.suppressesVariable "" name false
  else false

/-- The label of the first rule that suppresses a change of a function. -/
def functionLabel? (context : Context) (facts : FunctionFacts) (change : Changes) : Option String :=
  (context.functionRules.find? fun rule =>
    rule.suppresses context.binary facts change true).map fun rule => rule.header.label

/-- The label of the first rule that suppresses a change of a variable. -/
def variableLabel? (context : Context) (facts : VariableFacts) (change : Changes) : Option String :=
  (context.variableRules.find? fun rule =>
    rule.suppresses context.binary facts change).map fun rule => rule.header.label

/-- The label of the first rule that suppresses a change of a type. -/
def typeLabel? (context : Context) (facts : TypeFacts) : Option String :=
  (context.typeRules.find? fun rule =>
    rule.suppresses context.binary facts).map fun rule => rule.header.label

end Context

end Suppression

end Abiscope
