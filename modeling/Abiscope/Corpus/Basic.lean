import Abiscope.Architecture
import Abiscope.Symbol.Table
import Abiscope.TypeGraph.Naming

/-!
# Corpora

A corpus is what is known about the interface of one binary: how it identifies itself, its symbols, and
the functions and variables it declares with their types. A declaration is bound to a symbol by its
linkage name.
-/

namespace Abiscope

/-- A parameter of a declared function. -/
structure Parameter where
  name : Option String := none
  type : Nat
deriving DecidableEq, Repr

/-- A declared function. -/
structure FunctionDeclaration where
  name : String
  linkageName : Option String := none
  result : Nat
  parameters : List Parameter := []
  location : Option SourceLocation := none
deriving DecidableEq, Repr

/-- A declared variable. -/
structure VariableDeclaration where
  name : String
  linkageName : Option String := none
  type : Nat
  location : Option SourceLocation := none
deriving DecidableEq, Repr

/-- The interface of one binary. `needed` lists the libraries it asks for. -/
structure Corpus where
  path : String
  soname : String := ""
  architecture : Option Architecture := none
  needed : List String := []
  table : Symbol.Table := {}
  types : TypeGraph := {}
  functions : List FunctionDeclaration := []
  globals : List VariableDeclaration := []

namespace Corpus

/-- The place of the symbol that a linkage name is bound to: the first one with a default version, or
else the first one. -/
def bound? (corpus : Corpus) (linkageName : Option String) : Option Nat := do
  let places := corpus.table.findName (← linkageName)
  let isDefault (id : Nat) : Bool := (corpus.table.symbol? id).any fun symbol =>
    symbol.version.isDefault
  places.find? isDefault <|> places.head?

/-- The symbol that a linkage name is bound to. -/
def symbolFor? (corpus : Corpus) (linkageName : Option String) : Option Symbol :=
  (corpus.bound? linkageName).bind corpus.table.symbol?

/-- A function as it is declared. -/
def signature (corpus : Corpus) (function : FunctionDeclaration) : String :=
  corpus.types.signature function.name function.result (function.parameters.map Parameter.type)

/-- A variable as it is declared. -/
def variableText (corpus : Corpus) (variable_ : VariableDeclaration) : String :=
  corpus.types.name variable_.type ++ " " ++ variable_.name

end Corpus

end Abiscope
