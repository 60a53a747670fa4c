import Abiscope.Suppression.FunctionRule

/-!
# Suppressions of variables

A rule about variables applies when every criterion that is present accepts: on the name, the symbol,
the version of the symbol, and the type. Without any criterion it applies to nothing.
-/

namespace Abiscope.Suppression

/-- A rule about variables. -/
structure VariableRule where
  header : Header := {}
  changes : Changes := {}
  name : NameCriteria := {}
  symbolName : NameCriteria := {}
  symbolVersion : TextCriteria := {}
  type : TextCriteria := {}

/-- What is known about a variable. -/
structure VariableFacts where
  name : String := ""
  linkageName : String := ""
  symbol : Option Symbol := none
  type : Option String := none

namespace VariableRule

def hasCriteria (rule : VariableRule) : Bool :=
  rule.changes != {} || rule.name.isPresent || rule.symbolName.isPresent ||
    rule.symbolVersion.isPresent || rule.type.isPresent || rule.header.isConfined

/-- Whether the criteria on the name accept a variable. -/
def acceptsName (rule : VariableRule) (facts : VariableFacts) : Bool :=
  !rule.name.isPresent ||
    (ownName facts.name facts.linkageName != "" &&
      rule.name.accepts (ownName facts.name facts.linkageName))

/-- Whether the criteria on the symbol accept a variable. -/
def acceptsSymbol (rule : VariableRule) (facts : VariableFacts) : Bool :=
  let name := (facts.symbol.map Symbol.name).getD facts.linkageName
  !rule.symbolName.isPresent || (name != "" && rule.symbolName.accepts name)

/-- Whether the criteria on the version accept a variable, which needs a symbol for that. -/
def acceptsVersion (rule : VariableRule) (facts : VariableFacts) : Bool :=
  !rule.symbolVersion.isPresent ||
    facts.symbol.any fun symbol => rule.symbolVersion.permits symbol.version.name

/-- Whether the criteria on the type accept a variable, whose type has to be known. -/
def acceptsType (rule : VariableRule) (facts : VariableFacts) : Bool :=
  !rule.type.isPresent || facts.type.any rule.type.permits

/-- Whether a rule suppresses a change of a variable. -/
def suppresses (rule : VariableRule) (binary : Binary) (facts : VariableFacts) (change : Changes) :
    Bool :=
  rule.changes.meets change && rule.hasCriteria && rule.header.concerns binary &&
    rule.acceptsName facts && rule.acceptsSymbol facts && rule.acceptsVersion facts &&
    rule.acceptsType facts

/-- The patterns of a rule with the names of their properties. -/
def patterns (rule : VariableRule) : List (String × Pattern) :=
  rule.header.patterns ++
    [("name_regexp", rule.name.patterns.only),
      ("name_not_regexp", rule.name.patterns.except),
      ("symbol_name_regexp", rule.symbolName.patterns.only),
      ("symbol_name_not_regexp", rule.symbolName.patterns.except),
      ("symbol_version_regexp", rule.symbolVersion.pattern),
      ("type_name_regexp", rule.type.pattern)]

end VariableRule

end Abiscope.Suppression
