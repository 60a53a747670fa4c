import Abiscope.Difference.Declaration
import Abiscope.Difference.Side
import Abiscope.Difference.TypeComparison
import Abiscope.Suppression

/-!
# Differences between corpora

The difference between two corpora lists what changed about the binaries themselves, the functions and
variables that were removed, added or changed, and the symbols without a declaration that were removed
or added. Functions and variables are matched by key and come in ascending order of their keys, symbols
in ascending order of their id strings. Suppressions are judged for the first of the two binaries.

Whatever is found to have changed in a type, the size of the old type is asked for, and the comparison
fails where this is not found.
-/

namespace Abiscope

/-- What a comparison covers and what its report shows. -/
structure Options where
  showLocations : Bool := true
  /-- Whether symbols that no declaration refers to are compared. -/
  showUnreferenced : Bool := true
  showSuppressed : Bool := false
deriving DecidableEq, Repr

/-- What changed between two corpora. -/
structure Difference where
  firstPath : String
  secondPath : String
  soname : Option (String × String) := none
  architecture : Option (Architecture × Architecture) := none
  removedNeeded : List String := []
  addedNeeded : List String := []
  removedFunctions : List EntityChange := []
  addedFunctions : List EntityChange := []
  changedFunctions : List FunctionDifference := []
  removedVariables : List EntityChange := []
  addedVariables : List EntityChange := []
  changedVariables : List VariableDifference := []
  removedFunctionSymbols : List SymbolChange := []
  addedFunctionSymbols : List SymbolChange := []
  removedVariableSymbols : List SymbolChange := []
  addedVariableSymbols : List SymbolChange := []

namespace Difference

open Suppression (Changes Context FunctionFacts FunctionRule)
open TypeComparison (Remembering)

/-- Two values that differ. -/
def ifDiffer {α : Type} [BEq α] (old new : α) : Option (α × α) :=
  if old == new then none else some (old, new)

/-- The elements of a list that are not in another one. -/
def missing (from_ others : List String) : List String :=
  from_.filter fun name => !others.contains name

/-- A function on one side only. -/
def functionEntity (context : Context) (change : Changes) (side : Side) (key : String)
    (bound : Bound FunctionDeclaration) : EntityChange where
  text := side.corpus.signature bound.1
  key := key
  symbol := side.symbolOf? bound.2
  location := bound.1.location
  suppressedBy := context.functionLabel? (side.functionFacts bound) change

/-- A variable on one side only. -/
def variableEntity (context : Context) (change : Changes) (side : Side) (key : String)
    (bound : Bound VariableDeclaration) : EntityChange where
  text := side.corpus.variableText bound.1
  key := key
  symbol := side.symbolOf? bound.2
  location := bound.1.location
  suppressedBy := context.variableLabel? (side.variableFacts bound) change

/-- What is in one map under keys that another map lacks. -/
def onlyIn {δ ε : Type} (entity : String → δ → ε) (here there : Std.TreeMap String δ) : List ε :=
  here.toList.filterMap fun (key, bound) =>
    if there.contains key then none else some (entity key bound)

/-- What is in both of two maps, by ascending keys. -/
def inBoth {δ : Type} (first second : Std.TreeMap String δ) : List (String × δ × δ) :=
  first.toList.filterMap fun (key, old) => (second.get? key).map fun new => (key, old, new)

/-! ## Functions -/

/-- The changes of the parameters that are there on both sides. -/
def retypedParameters (comparison : TypeComparison) :
    List ((Parameter × Parameter) × Nat) → Remembering (List ParameterDifference)
  | [] => return []
  | ((old, new), index) :: rest => do
    let found ← comparison.compare old.type new.type .direct
    let others ← retypedParameters comparison rest
    return match found with
      | some difference => ⟨index, old.name, .retyped difference, none⟩ :: others
      | none => others

/-- The parameters behind the first `count` ones. -/
def furtherParameters (graph : TypeGraph) (change : String → ParameterChange) (count : Nat)
    (parameters : List Parameter) : List ParameterDifference :=
  (parameters.zipIdx.drop count).map fun (parameter, index) =>
    ⟨index, parameter.name, change (graph.name parameter.type), none⟩

/-- The changes of the parameters of a function, first of those on both sides. -/
def parameterDifferences (comparison : TypeComparison) (old new : List Parameter) :
    Remembering (List ParameterDifference) := do
  let retyped ← retypedParameters comparison (old.zip new).zipIdx
  return retyped ++ furtherParameters comparison.first .removed new.length old ++
    furtherParameters comparison.second .added old.length new

/-- Labels the changes of parameters that a rule suppresses. A parameter counts by its type on the old
side, and a change that has a label keeps it. -/
def labelParameters (rule : FunctionRule) (facts : FunctionFacts)
    (parameters : List ParameterDifference) : List ParameterDifference :=
  parameters.map fun parameter =>
    let applies := facts.parameterTypes[parameter.index]?.any
      (rule.suppressesParameter parameter.index)
    if !parameter.isSuppressed && applies then
      { parameter with suppressedBy := some rule.header.label }
    else parameter

/-- Labels what rules suppress, one rule after the other. A rule with criteria on parameters suppresses
changes of single parameters; the first other rule that applies suppresses the whole, and no further
rule counts. -/
def labelFunction (context : Context) (facts : FunctionFacts) :
    List FunctionRule → FunctionDifference → FunctionDifference
  | [], difference => difference
  | rule :: rules, difference =>
    let applies := rule.suppresses context.binary facts Changes.onlySubtype
    if rule.parameters.isEmpty then
      if applies true then { difference with suppressedBy := some rule.header.label }
      else labelFunction context facts rules difference
    else if applies false then
      labelFunction context facts rules
        { difference with parameters := labelParameters rule facts difference.parameters }
    else labelFunction context facts rules difference

/-- The changes of a function that is there on both sides, before anything is suppressed. -/
def unlabelledFunction (comparison : TypeComparison) (first second : Side) (key : String)
    (old new : Bound FunctionDeclaration) : Remembering FunctionDifference := do
  let result ← comparison.compare old.1.result new.1.result .direct
  let parameters ← parameterDifferences comparison old.1.parameters new.1.parameters
  return {
    text := first.corpus.signature old.1
    key := key
    location := old.1.location
    result := result
    parameters := parameters
    symbolChanges :=
      Symbol.changes false (first.symbolOf? old.2) (second.symbolOf? new.2) }

/-- The functions that are there on both sides and changed. -/
def functionDifferences (context : Context) (comparison : TypeComparison) (first second : Side) :
    List (String × Bound FunctionDeclaration × Bound FunctionDeclaration) →
      Remembering (List FunctionDifference)
  | [] => return []
  | (key, old, new) :: rest => do
    let difference ← unlabelledFunction comparison first second key old new
    let others ← functionDifferences context comparison first second rest
    if difference.hasChanges then
      let facts := first.functionFacts old
      return labelFunction context facts context.functionRules difference :: others
    else return others

/-! ## Variables -/

/-- The variables that are there on both sides and changed. -/
def variableDifferences (context : Context) (comparison : TypeComparison) (first second : Side) :
    List (String × Bound VariableDeclaration × Bound VariableDeclaration) →
      Remembering (List VariableDifference)
  | [] => return []
  | (key, old, new) :: rest => do
    let difference : VariableDifference := {
      text := first.corpus.variableText old.1
      key := key
      location := old.1.location
      type := ← comparison.compare old.1.type new.1.type .direct
      symbolChanges :=
        Symbol.changes true (first.symbolOf? old.2) (second.symbolOf? new.2) }
    let others ← variableDifferences context comparison first second rest
    if difference.hasChanges then
      let label := context.variableLabel? (first.variableFacts old) Changes.onlySubtype
      return { difference with suppressedBy := label } :: others
    else return others

/-! ## Symbols -/

/-- The label of the suppression that hides a symbol on one side only. -/
def symbolLabel? (context : Context) (change : Changes) (side : Side) (id : Nat)
    (symbol : Symbol) : Option String :=
  if symbol.isFunction then
    context.functionLabel?
      { linkageName := symbol.name, symbol := some symbol, aliases := side.aliasNames (some id) }
      change
  else context.variableLabel? { linkageName := symbol.name, symbol := some symbol } change

/-- The symbols of the interface of a side that no declaration of it refers to and that the interface of
the other side lacks. -/
def unreferenced (context : Context) (change : Changes) (here there : Side) : List SymbolChange :=
  here.interface.toList.filterMap fun (idString, id) =>
    if here.referenced.contains idString || there.interface.contains idString then none
    else (here.corpus.table.symbol? id).map fun symbol =>
      ⟨symbol, symbolLabel? context change here id symbol⟩

/-! ## The whole -/

/-- The comparison of the types of two sides. -/
def typeComparison (context : Context) (first second : Side) : TypeComparison :=
  ⟨first.corpus.types, second.corpus.types, context.typeLabel?⟩

/-- The functions and variables that changed. Both are compared with one memory. -/
def changed (context : Context) (first second : Side) :
    List FunctionDifference × List VariableDifference :=
  let comparison := typeComparison context first second
  let both : Remembering (List FunctionDifference × List VariableDifference) := do
    let functions ← functionDifferences context comparison first second
      (inBoth first.functions second.functions)
    let globals ← variableDifferences context comparison first second
      (inBoth first.globals second.globals)
    return (functions, globals)
  (both.run ∅).1

/-- Compares two corpora. -/
def ofCorpora (first second : Corpus) (suppressions : List Suppression) (options : Options) :
    Difference :=
  let context : Context := ⟨suppressions, ⟨first.soname, first.path⟩⟩
  let old := Side.ofCorpus first
  let new := Side.ofCorpus second
  let (changedFunctions, changedVariables) := changed context old new
  let removed := if options.showUnreferenced then
    unreferenced context Changes.onlyDeleted old new else []
  let added := if options.showUnreferenced then
    unreferenced context Changes.onlyAdded new old else []
  let isFunction (change : SymbolChange) : Bool := change.symbol.isFunction
  { firstPath := first.path
    secondPath := second.path
    soname := ifDiffer first.soname second.soname
    architecture := match first.architecture, second.architecture with
      | some old, some new => ifDiffer old new
      | _, _ => none
    removedNeeded := missing first.needed second.needed
    addedNeeded := missing second.needed first.needed
    removedFunctions := onlyIn (functionEntity context Changes.onlyDeleted old)
      old.functions new.functions
    addedFunctions := onlyIn (functionEntity context Changes.onlyAdded new)
      new.functions old.functions
    changedFunctions := changedFunctions
    removedVariables := onlyIn (variableEntity context Changes.onlyDeleted old)
      old.globals new.globals
    addedVariables := onlyIn (variableEntity context Changes.onlyAdded new)
      new.globals old.globals
    changedVariables := changedVariables
    removedFunctionSymbols := removed.filter isFunction
    addedFunctionSymbols := added.filter isFunction
    removedVariableSymbols := removed.filter fun change => !isFunction change
    addedVariableSymbols := added.filter fun change => !isFunction change }

/-- The first failure to find the size of a type. Functions are compared before variables. -/
def failure? (difference : Difference) : Option TypeGraph.SizeFailure :=
  (difference.changedFunctions.findSome? FunctionDifference.failure?).or
    (difference.changedVariables.findSome? VariableDifference.failure?)

/-- Compares two corpora, and fails where the size of a type that changed is not found. -/
def compute (first second : Corpus) (suppressions : List Suppression) (options : Options) :
    Except TypeGraph.SizeFailure Difference :=
  let difference := ofCorpora first second suppressions options
  match difference.failure? with
  | none => .ok difference
  | some failure => .error failure

end Difference

end Abiscope
