import Abiscope.Proofs.Histories
import Mathlib

/-!
# Declarations and their neighbours

The verdict on a function or variable is whether suppressions hide all of its changes. One may compare
two corpora as they are, or stripped of all other declarations. Whether a declaration is found to have
changed is the same either way. The verdict may depend on the neighbours, but only where a rule asks for
what the cut of a circle changes: for the way in which a type is reached, or for members that were
inserted and nothing else.
-/

namespace Abiscope

namespace Corpus

/-- A corpus in which nothing is declared but one function. -/
def withFunction (corpus : Corpus) (function : FunctionDeclaration) : Corpus :=
  { corpus with functions := [function], globals := [] }

/-- A corpus in which nothing is declared but one variable. -/
def withGlobal (corpus : Corpus) (declared : VariableDeclaration) : Corpus :=
  { corpus with functions := [], globals := [declared] }

variable {corpus : Corpus} {key : String}

/-- A function that takes part in a comparison takes part alone as it does among others. -/
theorem get?_functions_withFunction {bound : Bound FunctionDeclaration}
    (found : (Side.ofCorpus corpus).functions.get? key = some bound) :
    (Side.ofCorpus (corpus.withFunction bound.1)).functions.get? key = some bound := by
  change (Side.byKey corpus (Side.interfaceOf corpus) _ _ corpus.functions).get? key = _ at found
  change (Side.byKey corpus (Side.interfaceOf corpus) _ _ [bound.1]).get? key = _
  rw [Side.get?_byKey, Option.map_eq_some_iff] at found
  obtain ⟨declared, first, rfl⟩ := found
  rw [Side.get?_byKey, List.find?_singleton, if_pos (List.find?_some first), Option.map_some]

/-- A variable that takes part in a comparison takes part alone as it does among others. -/
theorem get?_globals_withGlobal {bound : Bound VariableDeclaration}
    (found : (Side.ofCorpus corpus).globals.get? key = some bound) :
    (Side.ofCorpus (corpus.withGlobal bound.1)).globals.get? key = some bound := by
  change (Side.byKey corpus (Side.interfaceOf corpus) _ _ corpus.globals).get? key = _ at found
  change (Side.byKey corpus (Side.interfaceOf corpus) _ _ [bound.1]).get? key = _
  rw [Side.get?_byKey, Option.map_eq_some_iff] at found
  obtain ⟨declared, first, rfl⟩ := found
  rw [Side.get?_byKey, List.find?_singleton, if_pos (List.find?_some first), Option.map_some]

end Corpus

namespace Difference

open Suppression (Changes Context)

variable {first second : Corpus} {suppressions : List Suppression} {options : Options} {key : String}

/-- Whether suppressions hide all changes of the function of a key, if the function changed. -/
def functionVerdict? (difference : Difference) (key : String) : Option Bool :=
  (difference.changedFunctions.find? (·.key == key)).map FunctionDifference.isFilteredOut

/-- Whether suppressions hide all changes of the variable of a key, if the variable changed. -/
def variableVerdict? (difference : Difference) (key : String) : Option Bool :=
  (difference.changedVariables.find? (·.key == key)).map VariableDifference.isFilteredOut

/-- Nothing about some pairs of types depends on what was compared before: no rule about types asks how
a type is reached or where members were inserted, or none of the pairs leads to one that leads back to
itself. -/
def Settled (first second : Corpus) (suppressions : List Suppression) (pairs : List (Nat × Nat)) :
    Prop :=
  (∀ rule ∈ suppressions.filterMap Suppression.typeRule?, rule.IgnoresPaths) ∨
    ∀ pair ∈ pairs, (comparisonOf first second suppressions).Straight pair

/-- What is settled is steady. -/
theorem Settled.steady {pairs : List (Nat × Nat)}
    (settled : Settled first second suppressions pairs) (pair : Nat × Nat) (member : pair ∈ pairs) :
    (comparisonOf first second suppressions).Steady pair := by
  rcases settled with ignore | straight
  · exact TypeComparison.steady_of_ignoresPaths (comparisonOf first second suppressions)
      ((contextOf first suppressions).ignoresPaths_typeLabel? ignore) pair
  · exact TypeComparison.steady_of_straight (straight pair member)

/-- Stripping two corpora of all declarations but those of one key changes neither whether these are
found to have changed nor, where nothing depends on history, the verdict on them.

Proof: in either comparison the entry about the key is made of the same two declarations, after some
comparisons of others or after none. -/
theorem verdict_stripped (first second : Corpus) (suppressions : List Suppression)
    (options : Options) (key : String) :
    (∀ old new, (Side.ofCorpus first).functions.get? key = some old →
      (Side.ofCorpus second).functions.get? key = some new →
      let whole := ofCorpora first second suppressions options
      let stripped := ofCorpora (first.withFunction old.1) (second.withFunction new.1) suppressions
        options
      (whole.functionVerdict? key).isSome = (stripped.functionVerdict? key).isSome ∧
        (Settled first second suppressions (functionPairs old.1 new.1) →
          whole.functionVerdict? key = stripped.functionVerdict? key)) ∧
    ∀ old new, (Side.ofCorpus first).globals.get? key = some old →
      (Side.ofCorpus second).globals.get? key = some new →
      let whole := ofCorpora first second suppressions options
      let stripped := ofCorpora (first.withGlobal old.1) (second.withGlobal new.1) suppressions options
      (whole.variableVerdict? key).isSome = (stripped.variableVerdict? key).isSome ∧
        (Settled first second suppressions [(old.1.type, new.1.type)] →
          whole.variableVerdict? key = stripped.variableVerdict? key) := by
  constructor
  · intro old new ofFirst ofSecond whole stripped
    obtain ⟨memory, history, entry⟩ := find?_changedFunctions suppressions options
      ofFirst ofSecond
    obtain ⟨otherMemory, otherHistory, otherEntry⟩ := find?_changedFunctions
      suppressions options (Corpus.get?_functions_withFunction ofFirst)
      (Corpus.get?_functions_withFunction ofSecond)
    obtain ⟨present, verdict⟩ := functionEntry_histories ⟨history, otherHistory⟩ (key, old, new)
    have alone : stripped.changedFunctions.find? (·.key == key) =
        (functionEntry first second suppressions (key, old, new) otherMemory).1 := otherEntry
    rw [functionVerdict?, functionVerdict?, entry, alone, Option.isSome_map, Option.isSome_map]
    exact ⟨present, fun settled => verdict settled.steady⟩
  · intro old new ofFirst ofSecond whole stripped
    obtain ⟨memory, history, entry⟩ := find?_changedVariables suppressions options
      ofFirst ofSecond
    obtain ⟨otherMemory, otherHistory, otherEntry⟩ := find?_changedVariables
      suppressions options (Corpus.get?_globals_withGlobal ofFirst)
      (Corpus.get?_globals_withGlobal ofSecond)
    obtain ⟨present, verdict⟩ := globalEntry_histories ⟨history, otherHistory⟩ (key, old, new)
    have alone : stripped.changedVariables.find? (·.key == key) =
        (globalEntry first second suppressions (key, old, new) otherMemory).1 := otherEntry
    rw [variableVerdict?, variableVerdict?, entry, alone, Option.isSome_map, Option.isSome_map]
    exact ⟨present, fun settled => verdict (settled.steady _ (List.mem_singleton_self _))⟩

/-! ## Neighbours that matter -/

/-- A function with one parameter of a type. -/
def taking (name : String) (type : Nat) : FunctionDeclaration where
  name := name
  result := 0
  parameters := [{ type := type }]

/-- A corpus without symbols that has some types and declares two functions and a variable of some of
them. -/
def declaring (nodes : Array TypeNode) (get put shared : Nat) : Corpus where
  path := "libnodes.so"
  types := { nodes := nodes }
  functions := [taking "get" get, taking "put" put]
  globals := [{ name := "shared", type := shared }]

/-- Two structs that point at each other. The second has an integer, which may be wide, the first may
have another one at its end, and two types point at the first. -/
def listTypes (isWide isRanked : Bool) : Array TypeNode := #[
  .void, .builtin "int" (if isWide then 64 else 32),
  .record {
    kind := .structRecord
    name := "node"
    size := if isRanked then 128 else 64
    members := ⟨"list", 3, 0⟩ :: if isRanked then [⟨"rank", 1, 64⟩] else [] },
  .pointer 4,
  .record {
    kind := .structRecord
    name := "list"
    size := 128
    members := [⟨"head", 5, 0⟩, ⟨"count", 1, 64⟩] },
  .pointer 2, .pointer 2]

/-- Hides what happens to the integer. -/
def widthRule : Suppression.TypeRule where
  name := some "int"

/-- Hides members added at the end of the first struct. -/
def rankRule : Suppression.TypeRule where
  name := some "struct node"
  insertions := [⟨.endOfType, .endOfType⟩]

/-- The rule at types that point at each other, with a rule that hides what changes in one of them. -/
theorem verdict_stripped_list :
    let old := declaring (listTypes false false) 6 4 1
    let new := declaring (listTypes true true) 6 4 1
    let rules := [.aboutType widthRule]
    (ofCorpora old new rules {}).functionVerdict? "put" =
        (ofCorpora (old.withFunction (taking "put" 4)) (new.withFunction (taking "put" 4)) rules
          {}).functionVerdict? "put" ∧
      (ofCorpora old new rules {}).variableVerdict? "shared" =
        (ofCorpora (old.withGlobal { name := "shared", type := 1 })
          (new.withGlobal { name := "shared", type := 1 }) rules {}).variableVerdict? "shared" := by
  intro old new rules
  have ignore : ∀ rule ∈ rules.filterMap Suppression.typeRule?, rule.IgnoresPaths := by
    intro rule member
    obtain rfl : rule = widthRule := List.mem_singleton.mp member
    exact ⟨rfl, rfl⟩
  exact ⟨((verdict_stripped old new rules {} "put").1 (taking "put" 4, none)
      (taking "put" 4, none) (by decide +kernel) (by decide +kernel)).2 (Or.inl ignore),
    ((verdict_stripped old new rules {} "shared").2 ({ name := "shared", type := 1 }, none)
      ({ name := "shared", type := 1 }, none) (by decide +kernel) (by decide +kernel)).2
        (Or.inl ignore)⟩

/-- `get` shows more of the first struct than `put` can, which comes to it behind the second struct. So
the member does not count as all that changed. -/
theorem put_shown_beside_get :
    (ofCorpora (declaring (listTypes false false) 6 4 0) (declaring (listTypes true true) 6 4 0)
      [.aboutType widthRule, .aboutType rankRule] {}).functionVerdict? "put" = some false := by
  decide +kernel

/-- `get` comes to the integer behind a pointer, and this is remembered for `put`, which alone would
come to it directly only. -/
theorem put_shown_behind_get :
    (ofCorpora (declaring (listTypes false false) 6 4 0) (declaring (listTypes true false) 6 4 0)
      [.aboutType { widthRule with reach := some .direct }] {}).functionVerdict? "put" =
        some false := by
  decide +kernel

/-- With a rule that asks for members that were inserted, or with one that asks how a type is reached,
`get` makes a change of `put` show that is hidden when `put` is alone. -/
theorem verdict_depends_on_neighbour :
    let old := declaring (listTypes false false) 6 4 0
    let wide := declaring (listTypes true false) 6 4 0
    let ranked := declaring (listTypes true true) 6 4 0
    let asksInsertions := [.aboutType widthRule, .aboutType rankRule]
    let asksReach := [.aboutType { widthRule with reach := some .direct }]
    ((Side.ofCorpus old).functions.get? "put" = some (taking "put" 4, none) ∧
        (Side.ofCorpus wide).functions.get? "put" = some (taking "put" 4, none) ∧
        (Side.ofCorpus ranked).functions.get? "put" = some (taking "put" 4, none)) ∧
      (ofCorpora old ranked asksInsertions {}).functionVerdict? "put" = some false ∧
      (ofCorpora (old.withFunction (taking "put" 4)) (ranked.withFunction (taking "put" 4))
        asksInsertions {}).functionVerdict? "put" = some true ∧
      (ofCorpora old wide asksReach {}).functionVerdict? "put" = some false ∧
      (ofCorpora (old.withFunction (taking "put" 4)) (wide.withFunction (taking "put" 4))
        asksReach {}).functionVerdict? "put" = some true := by
  -- Where nothing is inside a struct, its size is asked for, which is rewritten and not computed.
  refine ⟨⟨by decide +kernel, by decide +kernel, by decide +kernel⟩, put_shown_beside_get,
    by cbv, put_shown_behind_get, by decide +kernel⟩

end Difference

end Abiscope
