import Abiscope.Corpus.Basic
import Abiscope.Suppression.FunctionRule
import Abiscope.Suppression.VariableRule

/-!
# The sides of a comparison

A corpus takes part in a comparison with the symbols of its interface, by id string, and with the
declarations that are bound to one of them or to no symbol at all. A declaration goes by a key: the id
string of its symbol, or else its linkage name, or else its own name. Of several declarations of one key
the first takes part.
-/

namespace Abiscope

/-- A declaration with the place of the symbol it is bound to. -/
abbrev Bound (δ : Type) := δ × Option Nat

/-- A corpus as it takes part in a comparison. -/
structure Side where
  corpus : Corpus
  /-- The symbols of the interface by id string. -/
  interface : Std.TreeMap String Nat
  /-- The id strings of the symbols that declarations are bound to, whether or not they take part. -/
  referenced : List String
  functions : Std.TreeMap String (Bound FunctionDeclaration)
  globals : Std.TreeMap String (Bound VariableDeclaration)

namespace Side

/-- The id string of the symbol at a place. -/
def idStringOf (corpus : Corpus) (id : Nat) : String :=
  ((corpus.table.symbol? id).map Symbol.idString).getD ""

/-- The symbols of the interface of a corpus by id string, of which the last one counts. -/
def interfaceOf (corpus : Corpus) : Std.TreeMap String Nat :=
  (corpus.table.select corpus.table.interface).foldl
    (fun interface id => interface.insert (idStringOf corpus id) id) ∅

/-- The key of a declaration, unless it is bound to a symbol outside the interface. -/
def key? (corpus : Corpus) (interface : Std.TreeMap String Nat) (linkageName : Option String)
    (name : String) : Option String :=
  match corpus.bound? linkageName with
  | some id =>
    if interface.contains (idStringOf corpus id) then some (idStringOf corpus id) else none
  | none => some ((linkageName.filter (· != "")).getD name)

/-- Declarations by key, the first one of each. -/
def byKey {δ : Type} (corpus : Corpus) (interface : Std.TreeMap String Nat)
    (linkageName : δ → Option String) (name : δ → String) (declarations : List δ) :
    Std.TreeMap String (Bound δ) :=
  declarations.foldl
    (fun keyed declaration =>
      match key? corpus interface (linkageName declaration) (name declaration) with
      | some key =>
        keyed.insertIfNew key (declaration, corpus.bound? (linkageName declaration))
      | none => keyed)
    ∅

/-- How a corpus takes part in a comparison. -/
def ofCorpus (corpus : Corpus) : Side :=
  let interface := interfaceOf corpus
  let linkageNames :=
    corpus.functions.map FunctionDeclaration.linkageName ++
      corpus.globals.map VariableDeclaration.linkageName
  { corpus := corpus
    interface := interface
    referenced := linkageNames.filterMap fun linkageName =>
      (corpus.bound? linkageName).map (idStringOf corpus)
    functions := byKey corpus interface FunctionDeclaration.linkageName FunctionDeclaration.name
      corpus.functions
    globals := byKey corpus interface VariableDeclaration.linkageName VariableDeclaration.name
      corpus.globals }

/-- The symbol at the place that a declaration is bound to. -/
def symbolOf? (side : Side) (id : Option Nat) : Option Symbol := id.bind side.corpus.table.symbol?

/-- The names of the other symbols at the address of a symbol. -/
def aliasNames (side : Side) (id : Option Nat) : List String :=
  match id with
  | some id => (side.corpus.table.aliases id).filterMap fun other =>
      (side.corpus.table.symbol? other).map Symbol.name
  | none => []

/-- What a suppression may ask about a function. -/
def functionFacts (side : Side) (bound : Bound FunctionDeclaration) :
    Suppression.FunctionFacts where
  name := bound.1.name
  linkageName := bound.1.linkageName.getD ""
  symbol := side.symbolOf? bound.2
  aliases := side.aliasNames bound.2
  resultType := some (side.corpus.types.name bound.1.result)
  parameterTypes := bound.1.parameters.map fun parameter => side.corpus.types.name parameter.type

/-- What a suppression may ask about a variable. -/
def variableFacts (side : Side) (bound : Bound VariableDeclaration) :
    Suppression.VariableFacts where
  name := bound.1.name
  linkageName := bound.1.linkageName.getD ""
  symbol := side.symbolOf? bound.2
  type := some (side.corpus.types.name bound.1.type)

end Side

end Abiscope
