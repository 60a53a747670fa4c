import Abiscope.Suppression.Criteria
import Abiscope.Symbol.Basic

/-!
# Suppressions of functions

A rule about functions applies when every criterion that is present accepts: on the name, the symbol,
the version of the symbol, the type of the result, and the types of single parameters. Without any
criterion it applies to nothing.
-/

namespace Abiscope.Suppression

/-- A criterion on the type of one parameter. -/
structure ParameterSpec where
  index : Nat
  type : TextCriteria := {}

/-- A rule about functions. -/
structure FunctionRule where
  header : Header := {}
  changes : Changes := {}
  name : NameCriteria := {}
  resultType : TextCriteria := {}
  parameters : List ParameterSpec := []
  symbolName : NameCriteria := {}
  symbolVersion : TextCriteria := {}
  /-- Whether a symbol counts although the function goes by other symbols as well. -/
  allowsAliases : Bool := true

/-- What is known about a function. An unknown result type is not the same as any type. -/
structure FunctionFacts where
  name : String := ""
  linkageName : String := ""
  symbol : Option Symbol := none
  aliases : List String := []
  resultType : Option String := none
  parameterTypes : List String := []

/-- The name by which a function or variable is asked for: its own, or else that of its symbol. -/
def ownName (name linkageName : String) : String := if name == "" then linkageName else name

namespace FunctionRule

def hasCriteria (rule : FunctionRule) : Bool :=
  rule.changes != {} || rule.name.isPresent || rule.symbolName.isPresent ||
    rule.symbolVersion.isPresent || rule.resultType.isPresent || !rule.parameters.isEmpty ||
    rule.header.isConfined

/-- Whether the criteria on the name accept a function. -/
def acceptsName (rule : FunctionRule) (facts : FunctionFacts) : Bool :=
  !rule.name.isPresent ||
    (ownName facts.name facts.linkageName != "" &&
      rule.name.accepts (ownName facts.name facts.linkageName))

/-- Whether the criteria on the symbol accept a function, and all its aliases if they have to. -/
def acceptsSymbol (rule : FunctionRule) (facts : FunctionFacts) : Bool :=
  let name := (facts.symbol.map Symbol.name).getD facts.linkageName
  !rule.symbolName.isPresent ||
    (name != "" && rule.symbolName.accepts name &&
      (rule.allowsAliases || facts.aliases.all rule.symbolName.accepts))

/-- Whether the criteria on the version accept a function, which needs a symbol for that. -/
def acceptsVersion (rule : FunctionRule) (facts : FunctionFacts) : Bool :=
  !rule.symbolVersion.isPresent ||
    facts.symbol.any fun symbol => rule.symbolVersion.permits symbol.version.name

/-- Whether the criteria on the result accept a function, whose result type has to be known. -/
def acceptsResult (rule : FunctionRule) (facts : FunctionFacts) : Bool :=
  !rule.resultType.isPresent ||
    facts.resultType.any fun type =>
      (rule.resultType.pattern.matches? type).getD (rule.resultType.exact == some type)

/-- Whether every criterion on a parameter accepts the parameter, which has to be there. -/
def acceptsParameters (rule : FunctionRule) (facts : FunctionFacts) : Bool :=
  rule.parameters.all fun spec => facts.parameterTypes[spec.index]?.any spec.type.demands

/-- Whether a rule suppresses a change of a function. The criteria on parameters may be set aside. -/
def suppresses (rule : FunctionRule) (binary : Binary) (facts : FunctionFacts) (change : Changes)
    (checkParameters : Bool) : Bool :=
  rule.changes.meets change && rule.hasCriteria && rule.header.concerns binary &&
    rule.acceptsName facts && rule.acceptsSymbol facts && rule.acceptsVersion facts &&
    rule.acceptsResult facts && (!checkParameters || rule.acceptsParameters facts)

/-- Whether some criterion on this parameter accepts its type. -/
def suppressesParameter (rule : FunctionRule) (index : Nat) (type : String) : Bool :=
  rule.parameters.any fun spec => spec.index == index && spec.type.demands type

/-- The patterns of a rule with the names of their properties. -/
def patterns (rule : FunctionRule) : List (String × Pattern) :=
  rule.header.patterns ++
    [("name_regexp", rule.name.patterns.only),
      ("name_not_regexp", rule.name.patterns.except),
      ("return_type_regexp", rule.resultType.pattern),
      ("symbol_name_regexp", rule.symbolName.patterns.only),
      ("symbol_name_not_regexp", rule.symbolName.patterns.except),
      ("symbol_version_regexp", rule.symbolVersion.pattern)] ++
    rule.parameters.map fun spec => ("parameter.type_name_regexp", spec.type.pattern)

end FunctionRule

end Abiscope.Suppression
