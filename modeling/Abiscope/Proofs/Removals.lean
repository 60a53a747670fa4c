import Abiscope.Difference.Statistics
import Abiscope.Proofs.SideKeys

/-!
# Which removals a difference shows

A symbol that the first corpus offers and the second does not is gone for everyone who binds to it. If
no declaration refers to it, it is listed among the symbols. If one does, it is left to the
declarations: they are matched by their keys, and a declaration of the first corpus goes by the id
string. So the removal shows exactly if functions or variables have that key on the first side alone.

The key of a declaration that is bound to nothing is its linkage name or name, and that may well be the
id string of a symbol without a version. Then the declaration of the second corpus, whose symbol is
gone, is matched with that of the first one, and as a missing symbol has no attributes to compare, the
removal shows nowhere.
-/

namespace Abiscope

namespace Difference

/-- Something listed as removed goes by an id. -/
def MarksRemoved (difference : Difference) (id : String) : Prop :=
  (∃ change ∈ difference.removedFunctions, change.key = id) ∨
    (∃ change ∈ difference.removedVariables, change.key = id) ∨
    (∃ change ∈ difference.removedFunctionSymbols, change.symbol.idString = id) ∨
    ∃ change ∈ difference.removedVariableSymbols, change.symbol.idString = id

/-- The entries made of one side alone go by the keys that this side alone has. -/
theorem exists_mem_onlyIn {δ ε : Type} {entity : String → δ → ε} {keyOf : ε → String}
    (keyed : ∀ key bound, keyOf (entity key bound) = key) (here there : Std.TreeMap String δ)
    (id : String) :
    (∃ entry ∈ onlyIn entity here there, keyOf entry = id) ↔
      here.contains id = true ∧ there.contains id = false := by
  rw [Std.TreeMap.contains_eq_isSome_getElem?, ← Std.TreeMap.get?_eq_getElem?,
    Option.isSome_iff_exists]
  constructor
  · rintro ⟨entry, member, named⟩
    obtain ⟨key, bound, held, lacking, rfl⟩ := (mem_onlyIn entity here there entry).mp member
    rw [keyed] at named
    subst named
    exact ⟨⟨bound, held⟩, lacking⟩
  · rintro ⟨⟨bound, held⟩, lacking⟩
    exact ⟨entity id bound, (mem_onlyIn entity here there _).mpr ⟨id, bound, held, lacking, rfl⟩,
      keyed id bound⟩

/-- The symbols on one side alone go by the id strings that this side offers alone and that no
declaration of it refers to. -/
theorem exists_mem_unreferenced (context : Suppression.Context) (kinds : Suppression.Changes)
    (here : Corpus) (there : Side) (id : String) :
    (∃ change ∈ unreferenced context kinds (Side.ofCorpus here) there, change.symbol.idString = id) ↔
      here.Offers id ∧ ¬here.Declares id ∧ there.interface.contains id = false := by
  have undeclared (idString : String) :
      (Side.ofCorpus here).referenced.contains idString = false ↔ ¬here.Declares idString := by
    rw [← Side.referenced_contains, Bool.not_eq_true]
  constructor
  · rintro ⟨change, member, named⟩
    obtain ⟨idString, place, symbol, held, unreferred, lacking, placed, rfl⟩ :=
      (mem_unreferenced context kinds _ there change).mp member
    obtain ⟨same, placed', carried⟩ := Side.exists_symbol_of_interfaceOf held
    have symbols : same = symbol := Option.some.inj (placed'.symm.trans placed)
    subst symbols
    have ids : idString = id := carried.symm.trans named
    subst ids
    have offered : (Side.interfaceOf here).contains idString = true := by
      rw [Std.TreeMap.contains_eq_isSome_getElem?, ← Std.TreeMap.get?_eq_getElem?]
      exact Option.isSome_of_mem held
    exact ⟨(Side.contains_interfaceOf here idString).mp offered,
      (undeclared idString).mp unreferred, lacking⟩
  · rintro ⟨offered, unreferred, lacking⟩
    have taken := (Side.contains_interfaceOf here id).mpr offered
    rw [Std.TreeMap.contains_eq_isSome_getElem?, ← Std.TreeMap.get?_eq_getElem?,
      Option.isSome_iff_exists] at taken
    obtain ⟨place, held⟩ := taken
    obtain ⟨symbol, placed, carried⟩ := Side.exists_symbol_of_interfaceOf held
    exact ⟨_, (mem_unreferenced context kinds _ there _).mpr
      ⟨id, place, symbol, held, (undeclared id).mpr unreferred, lacking, placed, rfl⟩, carried⟩

/-- The two lists of removed symbols are the removed symbols, apart by what they name. -/
theorem exists_mem_removedSymbols (first second : Corpus) (suppressions : List Suppression)
    (options : Options) (shown : options.showUnreferenced = true) (id : String) :
    ((∃ change ∈ (ofCorpora first second suppressions options).removedFunctionSymbols,
        change.symbol.idString = id) ∨
      ∃ change ∈ (ofCorpora first second suppressions options).removedVariableSymbols,
        change.symbol.idString = id) ↔
      ∃ change ∈ unreferenced ⟨suppressions, ⟨first.soname, first.path⟩⟩
          Suppression.Changes.onlyDeleted (Side.ofCorpus first) (Side.ofCorpus second),
        change.symbol.idString = id := by
  simp only [ofCorpora, shown, if_true, List.mem_filter]
  constructor
  · rintro (⟨change, ⟨member, _⟩, named⟩ | ⟨change, ⟨member, _⟩, named⟩)
    · exact ⟨change, member, named⟩
    · exact ⟨change, member, named⟩
  · rintro ⟨change, member, named⟩
    cases sort : change.symbol.isFunction with
    | true => exact Or.inl ⟨change, ⟨member, sort⟩, named⟩
    | false => exact Or.inr ⟨change, ⟨member, by simp [sort]⟩, named⟩

/-- A removed symbol shows exactly if no declaration of the first corpus is bound to it, or functions,
or variables, have its id string as a key on the first side while none of the second side, bound to
nothing, goes by it.

Proof: each of the first two lists holds the keys of one side alone. A declaration of the second corpus
with this key cannot be bound, since the second corpus does not offer the id string. -/
theorem marksRemoved_iff (first second : Corpus) (suppressions : List Suppression)
    (options : Options) (shown : options.showUnreferenced = true) {id : String}
    (offered : first.Offers id) (gone : ¬second.Offers id) :
    (ofCorpora first second suppressions options).MarksRemoved id ↔
      ¬first.Declares id ∨
        (first.Keys first.functionNames id ∧ ¬second.KeysUnbound second.functionNames id) ∨
        (first.Keys first.globalNames id ∧ ¬second.KeysUnbound second.globalNames id) := by
  have lacking : (Side.ofCorpus second).interface.contains id = false := by
    rw [← Bool.not_eq_true]
    exact fun taken => gone ((Side.contains_interfaceOf second id).mp taken)
  have functions : (∃ change ∈ (ofCorpora first second suppressions options).removedFunctions,
      change.key = id) ↔
        first.Keys first.functionNames id ∧ ¬second.KeysUnbound second.functionNames id := by
    rw [← Side.keys_iff_keysUnbound gone, ← Side.contains_functions, ← Side.contains_functions,
      Bool.not_eq_true]
    exact exists_mem_onlyIn (fun _ _ => rfl) _ _ id
  have globals : (∃ change ∈ (ofCorpora first second suppressions options).removedVariables,
      change.key = id) ↔
        first.Keys first.globalNames id ∧ ¬second.KeysUnbound second.globalNames id := by
    rw [← Side.keys_iff_keysUnbound gone, ← Side.contains_globals, ← Side.contains_globals,
      Bool.not_eq_true]
    exact exists_mem_onlyIn (fun _ _ => rfl) _ _ id
  have symbols := exists_mem_removedSymbols first second suppressions options shown id
  rw [exists_mem_unreferenced] at symbols
  simp only [offered, lacking, true_and, and_true] at symbols
  rw [MarksRemoved, functions, globals, symbols, or_comm (a := ¬first.Declares id), or_assoc]

/-- The table of a binary with the given entries. -/
def tableOf (entries : List Symbol.Entry) : Symbol.Table :=
  (Symbol.Table.ofEntries entries {} fun _ => false).toOption.getD {}

/-- A corpus that declares one function without parameters and has the given symbols. -/
def releasing (entries : List Symbol.Entry) : Corpus where
  path := "librelease.so"
  table := tableOf entries
  types := { nodes := #[.void] }
  functions := [{ name := "release", linkageName := some "release", result := 0 }]

/-- The function symbol that the declaration is bound to. -/
def releaseEntry : Symbol.Entry where
  index := 1
  name := "release"
  typeCode := 2
  value := 0x1000

theorem offers_releasing : (releasing [releaseEntry]).Offers "release" :=
  ⟨0, by decide +kernel, by decide +kernel⟩

theorem not_offers_releasing (id : String) : ¬(releasing []).Offers id := by
  rintro ⟨place, selected, _⟩
  have empty : (releasing []).table.select (releasing []).table.interface = [] := by decide +kernel
  rw [empty] at selected
  contradiction

/-- The rule at a corpus that loses its only symbol and keeps the declaration: neither side of the
equivalence holds. -/
theorem marksRemoved_iff_releasing :
    ((releasing [releaseEntry]).Offers "release" ∧ ¬(releasing []).Offers "release") ∧
      ((ofCorpora (releasing [releaseEntry]) (releasing []) [] {}).MarksRemoved "release" ↔
        ¬(releasing [releaseEntry]).Declares "release" ∨
          ((releasing [releaseEntry]).Keys (releasing [releaseEntry]).functionNames "release" ∧
            ¬(releasing []).KeysUnbound (releasing []).functionNames "release") ∨
          ((releasing [releaseEntry]).Keys (releasing [releaseEntry]).globalNames "release" ∧
            ¬(releasing []).KeysUnbound (releasing []).globalNames "release")) :=
  ⟨⟨offers_releasing, not_offers_releasing _⟩,
    marksRemoved_iff _ _ [] {} rfl offers_releasing (not_offers_releasing _)⟩

/-- A symbol that is gone although the declaration bound to it stays shows nowhere, and nothing is left
to report. -/
theorem declared_removal_unmarked :
    (releasing [releaseEntry]).Offers "release" ∧ ¬(releasing []).Offers "release" ∧
      ¬(ofCorpora (releasing [releaseEntry]) (releasing []) [] {}).MarksRemoved "release" ∧
      (ofCorpora (releasing [releaseEntry]) (releasing []) [] {}).status = {} := by
  refine ⟨offers_releasing, not_offers_releasing _, ?_, by decide +kernel⟩
  have functions :
      (ofCorpora (releasing [releaseEntry]) (releasing []) [] {}).removedFunctions = [] := by
    decide +kernel
  have globals :
      (ofCorpora (releasing [releaseEntry]) (releasing []) [] {}).removedVariables = [] := by
    decide +kernel
  have functionSymbols :
      (ofCorpora (releasing [releaseEntry]) (releasing []) [] {}).removedFunctionSymbols = [] := by
    decide +kernel
  have globalSymbols :
      (ofCorpora (releasing [releaseEntry]) (releasing []) [] {}).removedVariableSymbols = [] := by
    decide +kernel
  simp [MarksRemoved, functions, globals, functionSymbols, globalSymbols]

end Difference

end Abiscope
