import Abiscope.Proofs.Annotations
import Abiscope.Proofs.Removals

/-!
# The symbols of declarations that take part

A declaration that is bound to a symbol takes part in a comparison if the corpus offers the id string of
the symbol. That the corpus offers the symbol itself is not asked. The two come apart where several
symbols share an id string: a name is bound to the first of them in the order of the table, be it local,
hidden or suppressed, while it may be a later one that is offered. Such a first symbol stands in front of
the offered one, and what is reported is its binding, visibility and size, and not those of the symbol
that users bind to.

So the symbols of a side are offered ones exactly if no declaration that stands for its key is bound to a
symbol in front of an offered one.
-/

namespace Abiscope

namespace Corpus

/-- The symbol at a place is one that other binaries can bind to. -/
def OffersPlace (corpus : Corpus) (place : Nat) : Prop :=
  place ∈ corpus.table.select corpus.table.interface

/-- A symbol, if there is one, is one that other binaries can bind to. -/
def OffersSymbol (corpus : Corpus) (symbol : Option Symbol) : Prop :=
  ∀ held, symbol = some held →
    ∃ place, corpus.OffersPlace place ∧ corpus.table.symbol? place = some held

/-- A symbol that other binaries cannot bind to shares its id string with one that they can bind to. -/
def Fronts (corpus : Corpus) (place : Nat) : Prop :=
  ¬corpus.OffersPlace place ∧ corpus.Offers (Side.idStringOf corpus place)

/-- The first of some declarations that go by a key. It is the one that takes part. -/
def leading? (corpus : Corpus) (names : List (Option String × String)) (key : String) :
    Option (Option String × String) :=
  names.find? fun declared =>
    Side.key? corpus (Side.interfaceOf corpus) declared.1 declared.2 == some key

/-- Some of the declarations that take part is bound to a symbol in front of an offered one. -/
def BindsFront (corpus : Corpus) (names : List (Option String × String)) : Prop :=
  ∃ key declared place, corpus.leading? names key = some declared ∧
    corpus.bound? declared.1 = some place ∧ corpus.Fronts place

end Corpus

namespace Side

/-- Every declaration of a map that has a symbol has an offered one. -/
def AllOffered {δ : Type} (corpus : Corpus) (keyed : Std.TreeMap String (Bound δ)) : Prop :=
  ∀ key declaration place, keyed.get? key = some (declaration, some place) → corpus.OffersPlace place

/-- Every function and variable that takes part with a symbol takes part with an offered one. -/
structure KeepsOffered (side : Side) : Prop where
  functions : AllOffered side.corpus side.functions
  globals : AllOffered side.corpus side.globals

/-- The corpus offers the id string of a bound declaration that has a key. -/
theorem offers_of_key? {corpus : Corpus} {linkageName : Option String} {name key : String}
    {place : Nat} (keyed : key? corpus (interfaceOf corpus) linkageName name = some key)
    (bound : corpus.bound? linkageName = some place) : corpus.Offers (idStringOf corpus place) := by
  rw [key?, bound] at keyed
  rw [← contains_interfaceOf]
  exact (Option.ite_none_right_eq_some.mp keyed).1

/-- Declarations by key have offered symbols exactly if none that stands for its key is bound to a symbol
in front of an offered one. -/
theorem allOffered_byKey_iff {δ : Type} (corpus : Corpus) (linkageName : δ → Option String)
    (name : δ → String) (declarations : List δ) :
    AllOffered corpus (byKey corpus (interfaceOf corpus) linkageName name declarations) ↔
      ¬corpus.BindsFront
        (declarations.map fun declared => (linkageName declared, name declared)) := by
  have leading (key : String) : corpus.leading?
      (declarations.map fun declared => (linkageName declared, name declared)) key =
        (declarations.find? fun declared =>
          key? corpus (interfaceOf corpus) (linkageName declared) (name declared) == some key).map
          fun declared => (linkageName declared, name declared) := List.find?_map
  constructor
  · rintro offered ⟨key, _, place, first, bound, fronts⟩
    rw [leading, Option.map_eq_some_iff] at first
    obtain ⟨declaration, found, rfl⟩ := first
    refine fronts.1 (offered key declaration place ?_)
    rw [get?_byKey, found, Option.map_some, bound]
  · intro behind key declaration place held
    rw [get?_byKey, Option.map_eq_some_iff] at held
    obtain ⟨leader, found, same⟩ := held
    obtain ⟨rfl, bound⟩ := Prod.mk.inj same
    have keyed := List.find?_some found
    rw [beq_iff_eq] at keyed
    by_contra outside
    refine behind ⟨key, (linkageName leader, name leader), place, ?_, bound, outside,
      offers_of_key? keyed bound⟩
    rw [leading, found, Option.map_some]

/-- The symbols of a side are offered ones exactly if neither functions nor variables that stand for their
keys are bound to a symbol in front of an offered one. -/
theorem keepsOffered_iff (corpus : Corpus) :
    (ofCorpus corpus).KeepsOffered ↔
      ¬corpus.BindsFront corpus.functionNames ∧ ¬corpus.BindsFront corpus.globalNames := by
  have functions : AllOffered corpus (ofCorpus corpus).functions ↔ _ :=
    allOffered_byKey_iff corpus _ _ corpus.functions
  have globals : AllOffered corpus (ofCorpus corpus).globals ↔ _ :=
    allOffered_byKey_iff corpus _ _ corpus.globals
  constructor
  · exact fun kept => ⟨functions.mp kept.functions, globals.mp kept.globals⟩
  · exact fun behind => ⟨functions.mpr behind.1, globals.mpr behind.2⟩

/-- The symbol that a declaration takes part with is offered if there is one. -/
theorem AllOffered.offersSymbol {δ : Type} {corpus : Corpus} {keyed : Std.TreeMap String (Bound δ)}
    (offered : AllOffered corpus keyed) {key : String} {bound : Bound δ}
    (held : keyed.get? key = some bound) :
    corpus.OffersSymbol ((ofCorpus corpus).symbolOf? bound.2) := by
  obtain ⟨declaration, place⟩ := bound
  intro symbol placed
  obtain ⟨place, rfl, placed⟩ := Option.bind_eq_some_iff.mp placed
  exact ⟨place, offered key declaration place held, placed⟩

end Side

namespace Difference

variable {first second : Corpus} {suppressions : List Suppression} {options : Options}

/-- A difference speaks of offered symbols only: about declarations on one side as well as where it
compares two symbols. -/
structure SpeaksOfOffered (first second : Corpus) (difference : Difference) : Prop where
  removed : ∀ change ∈ difference.removedFunctions ++ difference.removedVariables,
    first.OffersSymbol change.symbol
  added : ∀ change ∈ difference.addedFunctions ++ difference.addedVariables,
    second.OffersSymbol change.symbol
  changedFunctions : ∀ entry ∈ difference.changedFunctions, ∃ old new,
    first.OffersSymbol old ∧ second.OffersSymbol new ∧
      entry.symbolChanges = Symbol.changes false old new
  changedVariables : ∀ entry ∈ difference.changedVariables, ∃ old new,
    first.OffersSymbol old ∧ second.OffersSymbol new ∧
      entry.symbolChanges = Symbol.changes true old new

/-- An entry about a function lists how its symbols differ. -/
theorem symbolChanges_changedFunction {context : Suppression.Context} {comparison : TypeComparison}
    {first second : Side} {item : String × Bound FunctionDeclaration × Bound FunctionDeclaration}
    {memory : TypeComparison.Memory} {found : FunctionDifference}
    (made : (changedFunction context comparison first second item memory).1 = some found) :
    found.symbolChanges =
      Symbol.changes false (first.symbolOf? item.2.1.2) (second.symbolOf? item.2.2.2) := by
  rw [← (label_changedFunction made).2]
  -- Labels leave the changes of symbols alone.
  exact congrArg FunctionDifference.symbolChanges (bare_labelFunction _ _ _ _)

/-- An entry about a variable lists how its symbols differ. -/
theorem symbolChanges_changedVariable {context : Suppression.Context} {comparison : TypeComparison}
    {first second : Side} {item : String × Bound VariableDeclaration × Bound VariableDeclaration}
    {memory : TypeComparison.Memory} {found : VariableDifference}
    (made : (changedVariable context comparison first second item memory).1 = some found) :
    found.symbolChanges =
      Symbol.changes true (first.symbolOf? item.2.1.2) (second.symbolOf? item.2.2.2) := by
  rw [← (label_changedVariable made).2]
  rfl

/-- What is on one side only has offered symbols if all that takes part with a symbol has an offered
one. -/
theorem offersSymbol_of_mem_onlyIn {δ : Type} {corpus : Corpus} {entity : String → Bound δ → EntityChange}
    (symbol : ∀ key bound, (entity key bound).symbol = (Side.ofCorpus corpus).symbolOf? bound.2)
    {here there : Std.TreeMap String (Bound δ)} (offered : Side.AllOffered corpus here)
    {change : EntityChange} (member : change ∈ onlyIn entity here there) :
    corpus.OffersSymbol change.symbol := by
  obtain ⟨key, bound, held, _, rfl⟩ := (mem_onlyIn entity here there change).mp member
  rw [symbol]
  exact offered.offersSymbol held

/-- If two sides take part with offered symbols only, their difference speaks of no others. -/
theorem speaksOfOffered (firstKept : (Side.ofCorpus first).KeepsOffered)
    (secondKept : (Side.ofCorpus second).KeepsOffered) :
    (ofCorpora first second suppressions options).SpeaksOfOffered first second := by
  constructor
  case removed =>
    intro change member
    rcases List.mem_append.mp member with function | variable_
    · exact offersSymbol_of_mem_onlyIn (fun _ _ => rfl) firstKept.functions function
    · exact offersSymbol_of_mem_onlyIn (fun _ _ => rfl) firstKept.globals variable_
  case added =>
    intro change member
    rcases List.mem_append.mp member with function | variable_
    · exact offersSymbol_of_mem_onlyIn (fun _ _ => rfl) secondKept.functions function
    · exact offersSymbol_of_mem_onlyIn (fun _ _ => rfl) secondKept.globals variable_
  case changedFunctions =>
    intro entry member
    rw [changedFunctions_ofCorpora] at member
    obtain ⟨item, both, _, made⟩ := TypeComparison.exists_of_mem_eachOf member
    obtain ⟨ofFirst, ofSecond⟩ := (mem_inBoth _ _ _).mp both
    exact ⟨_, _, firstKept.functions.offersSymbol ofFirst, secondKept.functions.offersSymbol ofSecond,
      symbolChanges_changedFunction made⟩
  case changedVariables =>
    intro entry member
    rw [changedVariables_ofCorpora] at member
    obtain ⟨item, both, _, made⟩ := TypeComparison.exists_of_mem_eachOf member
    obtain ⟨ofFirst, ofSecond⟩ := (mem_inBoth _ _ _).mp both
    exact ⟨_, _, firstKept.globals.offersSymbol ofFirst, secondKept.globals.offersSymbol ofSecond,
      symbolChanges_changedVariable made⟩

/-- A function that is bound to a symbol of its name. -/
def starting : FunctionDeclaration := { name := "start", linkageName := some "start", result := 0 }

/-- A library with two symbols of one name, of which only the second is sure to be visible to other
binaries. -/
def twofold (bindingCode visibilityCode : Nat) : Corpus where
  path := "libtwofold.so"
  table := tableOf [
    { index := 1, name := "start", typeCode := 2, value := 0x1000, bindingCode := bindingCode,
      visibilityCode := visibilityCode },
    { index := 2, name := "start", typeCode := 2, value := 0x2000 }]
  types := { nodes := #[.void] }
  functions := [starting]

/-- Both symbols have one id string, so they are listed in their order. -/
theorem listed_twofold (bindingCode visibilityCode : Nat) :
    (twofold bindingCode visibilityCode).table.listed = [0, 1] := by
  change (List.mergeSort [("start", 0), ("start", 1)] _).map Prod.snd = [0, 1]
  rw [List.mergeSort_of_pairwise (by decide)]
  rfl

/-- Where only the second symbol is offered, the function takes part with one that is not. -/
theorem not_keepsOffered_twofold {bindingCode visibilityCode : Nat}
    (held : (Side.ofCorpus (twofold bindingCode visibilityCode)).functions.get? "start" =
      some (starting, some 0))
    (listed : (twofold bindingCode visibilityCode).table.select
      (twofold bindingCode visibilityCode).table.interface = [1]) :
    ¬(Side.ofCorpus (twofold bindingCode visibilityCode)).KeepsOffered := by
  intro kept
  have offered : (twofold bindingCode visibilityCode).OffersPlace 0 :=
    kept.functions "start" starting 0 held
  rw [Corpus.OffersPlace, listed] at offered
  exact absurd (List.mem_singleton.mp offered) Nat.zero_ne_one

/-- A function that other binaries bind to as a global, visible symbol on both sides takes part with a
local one on the one side and with a hidden one on the other, and these are found to differ. -/
theorem twofold_symbolChanges :
    ¬(Side.ofCorpus (twofold 0 0)).KeepsOffered ∧ ¬(Side.ofCorpus (twofold 1 2)).KeepsOffered ∧
      (ofCorpora (twofold 0 0) (twofold 1 2) [] {}).changedFunctions.map
        FunctionDifference.symbolChanges = [[.binding .localOnly .global,
          .visibility .everywhere .hidden]] := by
  have ofLocal : (twofold 0 0).table.select (twofold 0 0).table.interface = [1] := by
    rw [Symbol.Table.select, listed_twofold]
    decide +kernel
  have ofHidden : (twofold 1 2).table.select (twofold 1 2).table.interface = [1] := by
    rw [Symbol.Table.select, listed_twofold]
    decide +kernel
  refine ⟨not_keepsOffered_twofold ?_ ofLocal, not_keepsOffered_twofold ?_ ofHidden, ?_⟩
  · simp only [Side.ofCorpus, Side.interfaceOf, ofLocal]
    decide +kernel
  · simp only [Side.ofCorpus, Side.interfaceOf, ofHidden]
    decide +kernel
  · rw [changedFunctions_ofCorpora]
    simp only [Side.ofCorpus, Side.interfaceOf, ofLocal, ofHidden]
    decide +kernel

end Difference

end Abiscope
