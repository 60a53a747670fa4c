import Abiscope.Symbol.Basic

/-!
# Selections of symbols

A selection is a list of wishes, each of which may be left open. An open wish accepts every symbol; a
wish that is set accepts exactly the symbols that have, or exactly those that lack, its property.
-/

namespace Abiscope.Symbol

/-- Wishes about functions, variables, public symbols, undefined symbols and symbols that a kernel
exports. -/
structure Selection where
  functions : Option Bool := none
  globals : Option Bool := none
  publicOnes : Option Bool := none
  undefinedOnes : Option Bool := none
  exportedOnes : Option Bool := none
deriving DecidableEq, Repr

namespace Selection

/-- Whether a wish accepts a symbol that has or lacks its property. -/
def grants (wish : Option Bool) (property : Bool) : Bool := wish.all (· == property)

/-- Whether every wish accepts a symbol. -/
def accepts (selection : Selection) (symbol : Symbol) : Bool :=
  grants selection.functions symbol.isFunction &&
    grants selection.globals symbol.isVariable &&
    grants selection.publicOnes symbol.isPublic &&
    grants selection.undefinedOnes (!symbol.isDefined) &&
    grants selection.exportedOnes symbol.isExported

/-- A selection that wishes nothing accepts everything. -/
theorem accepts_default (symbol : Symbol) : ({} : Selection).accepts symbol = true := rfl

end Selection

end Abiscope.Symbol
