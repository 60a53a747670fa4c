import Abiscope.Proofs.FurtherRules
import Abiscope.Proofs.Removals
import Abiscope.Proofs.ReportCounts
import Abiscope.Proofs.SelfComparison

/-!
# Corpora that are compared by symbols alone

Corpora without declarations, which is what is read from a binary, differ in what the binaries say about
themselves and in the id strings that they offer. Where unreferenced symbols are compared, nothing changed
exactly if both are the same.

Only id strings are held against each other, while what is found is told apart by what the symbols stand for.
So a symbol that turns from code into data under its id string is neither removed nor added. That nothing
changed therefore tells that the interfaces are the same, functions and variables apart, exactly where
no id string turns.
-/

namespace Abiscope

namespace Corpus

/-- A symbol of some sort is offered under an id string. -/
def OffersAs (corpus : Corpus) (sort : Symbol → Bool) (id : String) : Prop :=
  ∃ place ∈ corpus.table.select corpus.table.interface, ∃ symbol,
    corpus.table.symbol? place = some symbol ∧ symbol.idString = id ∧ sort symbol = true

/-- Two binaries have one SONAME, no different architectures, and ask for the same libraries. -/
structure SameBinary (first second : Corpus) : Prop where
  soname : first.soname = second.soname
  architecture : ∀ old new, first.architecture = some old → second.architecture = some new → old = new
  needed : ∀ name, name ∈ first.needed ↔ name ∈ second.needed

/-- Two corpora offer the same id strings. -/
def SameIds (first second : Corpus) : Prop := ∀ id, first.Offers id ↔ second.Offers id

/-- An id string stands for a function in both of two corpora or in neither, and for a variable in both or
in neither. -/
structure SameSorts (first second : Corpus) (id : String) : Prop where
  functions : first.OffersAs Symbol.isFunction id ↔ second.OffersAs Symbol.isFunction id
  globals : first.OffersAs Symbol.isVariable id ↔ second.OffersAs Symbol.isVariable id

/-- Two corpora offer the same id strings, and each stands for the same sorts of symbols. -/
structure SameInterface (first second : Corpus) : Prop where
  ids : first.SameIds second
  sorts : ∀ id, first.SameSorts second id

variable {first second : Corpus}

/-- What is offered as something is offered. -/
theorem OffersAs.offers {corpus : Corpus} {sort : Symbol → Bool} {id : String}
    (offered : corpus.OffersAs sort id) : corpus.Offers id := by
  obtain ⟨place, selected, symbol, held, named, _⟩ := offered
  refine ⟨place, selected, ?_⟩
  rw [held, Option.map_some, named]

/-- An id string that neither corpus offers stands for nothing in either. -/
theorem SameSorts.of_not_offers {id : String} (notFirst : ¬first.Offers id)
    (notSecond : ¬second.Offers id) : first.SameSorts second id where
  functions := ⟨fun old => absurd old.offers notFirst, fun new => absurd new.offers notSecond⟩
  globals := ⟨fun old => absurd old.offers notFirst, fun new => absurd new.offers notSecond⟩

/-- Corpora that offer the same id strings have the same interface exactly if no offered id string turns
from one sort into another. -/
theorem SameIds.sameInterface_iff (ids : first.SameIds second) :
    first.SameInterface second ↔ ∀ id, first.Offers id → first.SameSorts second id := by
  constructor
  · intro same id _
    exact same.sorts id
  · intro keeps
    refine ⟨ids, fun id => ?_⟩
    by_cases offered : first.Offers id
    · exact keeps id offered
    · exact .of_not_offers offered fun new => offered ((ids id).mpr new)

/-- Without declarations no symbol is referred to. -/
theorem not_declares_of_bare {corpus : Corpus} (bare : corpus.functions = [] ∧ corpus.globals = [])
    (id : String) : ¬corpus.Declares id := by
  rintro ⟨declared, member, _⟩
  rw [functionNames, globalNames, bare.1, bare.2] at member
  contradiction

end Corpus

namespace Difference

open Suppression (Changes Context)

variable {first second : Corpus}

/-! ## The binaries themselves -/

/-- Two values are not listed exactly if they do not differ. -/
theorem ifDiffer_eq_none_iff {α : Type} [BEq α] [LawfulBEq α] (old new : α) :
    ifDiffer old new = none ↔ old = new := by
  simp [ifDiffer]

/-- No name is missing exactly if the others contain all of them. -/
theorem missing_eq_nil_iff (names others : List String) :
    missing names others = [] ↔ ∀ name ∈ names, name ∈ others := by
  simp only [missing, List.filter_eq_nil_iff, Bool.not_eq_true', Bool.not_eq_false,
    List.contains_iff_mem]

/-- Nothing changed about the binaries exactly if they say the same about themselves. -/
theorem sameBinary_iff (first second : Corpus) (suppressions : List Suppression) (options : Options) :
    (ofCorpora first second suppressions options).hasBinaryChanges = false ↔
      first.SameBinary second := by
  have architectures :
      (ofCorpora first second suppressions options).architecture = none ↔
        ∀ old new, first.architecture = some old → second.architecture = some new → old = new := by
    simp only [ofCorpora]
    cases first.architecture <;> cases second.architecture <;> simp [ifDiffer_eq_none_iff]
  rw [hasBinaryChanges_eq_false_iff, architectures]
  simp only [ofCorpora, ifDiffer_eq_none_iff, missing_eq_nil_iff]
  constructor
  · rintro ⟨soname, architecture, removed, added⟩
    exact ⟨soname, architecture, fun name => ⟨removed name, added name⟩⟩
  · rintro ⟨soname, architecture, needed⟩
    exact ⟨soname, architecture, fun name => (needed name).mp, fun name => (needed name).mpr⟩

/-! ## The symbols -/

/-- No symbol is listed exactly if every offered id string is referred to or offered on the other side. -/
theorem unreferenced_eq_nil_iff (context : Context) (change : Changes) (here there : Corpus) :
    unreferenced context change (Side.ofCorpus here) (Side.ofCorpus there) = [] ↔
      ∀ id, here.Offers id → here.Declares id ∨ there.Offers id := by
  rw [List.eq_nil_iff_forall_not_mem]
  constructor
  · intro none id offered
    by_contra lacking
    obtain ⟨undeclared, absent⟩ := not_or.mp lacking
    obtain ⟨place, mapped⟩ : ∃ place, (Side.interfaceOf here).get? id = some place := by
      rw [← Side.contains_interfaceOf, Std.TreeMap.contains_eq_isSome_getElem?] at offered
      exact Option.isSome_iff_exists.mp offered
    obtain ⟨symbol, held, _⟩ := Side.exists_symbol_of_interfaceOf mapped
    refine none _ ((mem_unreferenced context change _ _ _).mpr
      ⟨id, place, symbol, mapped, ?_, ?_, held, rfl⟩)
    · rw [Bool.eq_false_iff, Ne, Side.referenced_contains]
      exact undeclared
    · exact Bool.eq_false_iff.mpr fun present => absent ((Side.contains_interfaceOf there id).mp present)
  · intro covered entry member
    obtain ⟨id, place, symbol, mapped, unreferred, lacking, _⟩ :=
      (mem_unreferenced context change _ _ _).mp member
    have offered : here.Offers id := by
      rw [← Side.contains_interfaceOf, Std.TreeMap.contains_eq_isSome_getElem?]
      exact Option.isSome_iff_exists.mpr ⟨place, mapped⟩
    rcases covered id offered with declared | present
    · rw [← Side.referenced_contains, unreferred] at declared
      contradiction
    · have contains : (Side.interfaceOf there).contains id = true :=
        (Side.contains_interfaceOf there id).mpr present
      exact Bool.false_ne_true (lacking.symm.trans contains)

/-- Of two parts of a list, neither has anything exactly if the list is empty. -/
theorem filters_eq_nil_iff {α : Type} (test : α → Bool) (items : List α) :
    items.filter test = [] ∧ (items.filter fun item => !test item) = [] ↔ items = [] := by
  constructor
  · rintro ⟨passing, failing⟩
    rw [List.filter_eq_nil_iff] at passing failing
    rw [List.eq_nil_iff_forall_not_mem]
    intro item member
    have fails : test item = false := Bool.eq_false_iff.mpr (passing item member)
    exact failing item member (by rw [fails]; rfl)
  · rintro rfl
    exact ⟨rfl, rfl⟩

/-- Of corpora without declarations, nothing changed exactly if the binaries say the same about themselves
and offer the same id strings. -/
theorem hasChanges_of_bare (firstBare : first.functions = [] ∧ first.globals = [])
    (secondBare : second.functions = [] ∧ second.globals = []) (suppressions : List Suppression)
    {options : Options} (compared : options.showUnreferenced = true) :
    (ofCorpora first second suppressions options).hasChanges = false ↔
      first.SameBinary second ∧ first.SameIds second := by
  obtain ⟨⟨removedFunctions, removedVariables⟩, ⟨addedFunctions, addedVariables⟩, changedFunctions,
    changedVariables⟩ := declarations_of_bare firstBare secondBare suppressions options
  have removed : (ofCorpora first second suppressions options).removedFunctionSymbols = [] ∧
      (ofCorpora first second suppressions options).removedVariableSymbols = [] ↔
        ∀ id, first.Offers id → second.Offers id := by
    simp only [ofCorpora, if_pos compared]
    rw [filters_eq_nil_iff, unreferenced_eq_nil_iff]
    simp only [Corpus.not_declares_of_bare firstBare, false_or]
  have added : (ofCorpora first second suppressions options).addedFunctionSymbols = [] ∧
      (ofCorpora first second suppressions options).addedVariableSymbols = [] ↔
        ∀ id, second.Offers id → first.Offers id := by
    simp only [ofCorpora, if_pos compared]
    rw [filters_eq_nil_iff, unreferenced_eq_nil_iff]
    simp only [Corpus.not_declares_of_bare secondBare, false_or]
  rw [hasChanges_eq_false_iff, sameBinary_iff]
  constructor
  · rintro ⟨same, _, _, ⟨removedCode, addedCode⟩, removedData, addedData⟩
    exact ⟨same, fun id => ⟨removed.mp ⟨removedCode, removedData⟩ id, added.mp ⟨addedCode, addedData⟩ id⟩⟩
  · rintro ⟨same, ids⟩
    obtain ⟨removedCode, removedData⟩ := removed.mpr fun id => (ids id).mp
    obtain ⟨addedCode, addedData⟩ := added.mpr fun id => (ids id).mpr
    exact ⟨same, ⟨removedFunctions, addedFunctions, changedFunctions⟩,
      ⟨removedVariables, addedVariables, changedVariables⟩, ⟨removedCode, addedCode⟩, removedData,
      addedData⟩

/-- Corpora without declarations have no changes exactly if the binaries say the same about themselves and
offer the same id strings. That they have the same interface then, sorts included, holds exactly for corpora
between which no id string turns from one sort of symbol into another.

Proof: all that can be listed are symbols whose id strings one side lacks. An id string that neither side
offers stands for nothing, so that the sorts have to agree only where one is offered. -/
theorem sameInterface_of_unchanged_iff (firstBare : first.functions = [] ∧ first.globals = [])
    (secondBare : second.functions = [] ∧ second.globals = []) (suppressions : List Suppression)
    {options : Options} (compared : options.showUnreferenced = true) :
    ((ofCorpora first second suppressions options).hasChanges = false ↔
        first.SameBinary second ∧ first.SameIds second) ∧
      (((ofCorpora first second suppressions options).hasChanges = false → first.SameInterface second) ↔
        (first.SameBinary second → first.SameIds second →
          ∀ id, first.Offers id → first.SameSorts second id)) := by
  have unchanged := hasChanges_of_bare firstBare secondBare suppressions compared
  refine ⟨unchanged, ?_⟩
  rw [unchanged, and_imp]
  constructor
  · intro tells same ids
    exact ids.sameInterface_iff.mp (tells same ids)
  · intro keeps same ids
    exact ids.sameInterface_iff.mpr (keeps same ids)

/-- A corpus without declarations whose one symbol is of a type of the given number. -/
def switching (typeCode : Nat) : Corpus where
  path := "libmode.so"
  table := tableOf [{ index := 1, name := "mode", typeCode := typeCode, value := 0x1000 }]

/-- No corpus of this kind has declarations. -/
theorem bare_switching (typeCode : Nat) :
    (switching typeCode).functions = [] ∧ (switching typeCode).globals = [] :=
  ⟨rfl, rfl⟩

/-- A function that becomes an indirect one goes unnoticed: the same id strings are offered. -/
theorem sameInterface_of_unchanged_iff_switching :
    ({} : Options).showUnreferenced = true ∧
      (ofCorpora (switching 2) (switching 10) [] {}).hasChanges = false ∧
      ((switching 2).SameBinary (switching 10) ∧ (switching 2).SameIds (switching 10)) ∧
      (((ofCorpora (switching 2) (switching 10) [] {}).hasChanges = false →
          (switching 2).SameInterface (switching 10)) ↔
        ((switching 2).SameBinary (switching 10) → (switching 2).SameIds (switching 10) →
          ∀ id, (switching 2).Offers id → (switching 2).SameSorts (switching 10) id)) := by
  have compared : ({} : Options).showUnreferenced = true := rfl
  have unchanged : (ofCorpora (switching 2) (switching 10) [] {}).hasChanges = false := by
    decide +kernel
  obtain ⟨same, tells⟩ :=
    sameInterface_of_unchanged_iff (bare_switching 2) (bare_switching 10) [] compared
  exact ⟨compared, unchanged, same.mp unchanged, tells⟩

/-- A function that becomes a variable goes unnoticed as well, and the interfaces are not the same. -/
theorem switched_unnoticed :
    ((switching 2).functions = [] ∧ (switching 2).globals = []) ∧
      ((switching 1).functions = [] ∧ (switching 1).globals = []) ∧
      ({} : Options).showUnreferenced = true ∧
      (ofCorpora (switching 2) (switching 1) [] {}).hasChanges = false ∧
      ¬(switching 2).SameInterface (switching 1) := by
  have unchanged : (ofCorpora (switching 2) (switching 1) [] {}).hasChanges = false := by
    decide +kernel
  have isFunction : ((switching 2).table.symbol? 0).any (fun symbol =>
      symbol.idString == "mode" && symbol.isFunction) = true := by
    decide +kernel
  have noFunction : ∀ place ∈ (switching 1).table.select (switching 1).table.interface,
      ((switching 1).table.symbol? place).any Symbol.isFunction = false := by
    decide +kernel
  refine ⟨bare_switching 2, bare_switching 1, rfl, unchanged, fun same => ?_⟩
  have old : (switching 2).OffersAs Symbol.isFunction "mode" := by
    obtain ⟨symbol, held, sort⟩ := (Option.any_eq_true _ _).mp isFunction
    rw [Bool.and_eq_true, beq_iff_eq] at sort
    exact ⟨0, by decide +kernel, symbol, held, sort⟩
  obtain ⟨place, selected, symbol, held, _, sort⟩ := (same.sorts "mode").functions.mp old
  have none := noFunction place selected
  rw [held, Option.any_some, sort] at none
  contradiction

end Difference

end Abiscope
