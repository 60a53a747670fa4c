import Abiscope.Proofs.Removals
import Mathlib.Data.Bool.Basic
import Mathlib.Tactic.ByContra

/-!
# What makes a difference incompatible

A difference counts as incompatible if something is listed as removed and no suppression hides it. A symbol
is listed if the second corpus does not offer its id string, so it is gone. A declaration is listed if no
declaration of its sort goes by its key in the second corpus. Mostly it is gone as well: its symbol, or if
it has none, the name that it is known by.

But the second corpus may retain the key otherwise. It may offer a symbol that it does not declare, as a
stripped binary does, or it may declare a variable where the first declares a function. Then the
declaration is listed as removed all the same, and the difference is incompatible although nothing is gone.
-/

namespace Abiscope

namespace Corpus

/-- The linkage names and names under which functions or variables are declared. -/
def declaredNames (corpus : Corpus) : List (Option String × String) :=
  corpus.functionNames ++ corpus.globalNames

/-- Something that users of one corpus rely on is gone in another: an id string that they can bind to, or
the key of a declaration without a symbol. -/
def LostIn (first second : Corpus) : Prop :=
  (∃ id, first.Offers id ∧ ¬second.Offers id) ∨
    ∃ key, first.KeysUnbound first.declaredNames key ∧ ¬second.Keys second.declaredNames key

/-- A key is still there, as the id string of an offered symbol or as the key of a declaration. -/
def Retains (corpus : Corpus) (key : String) : Prop :=
  corpus.Offers key ∨ corpus.Keys corpus.declaredNames key

/-- A key of functions, or of variables, is a key of declarations. -/
theorem Keys.mono {corpus : Corpus} {some_ all : List (Option String × String)} {key : String}
    (keyed : corpus.Keys some_ key) (within : some_ ⊆ all) : corpus.Keys all key := by
  obtain ⟨declared, member, named⟩ := keyed
  exact ⟨declared, within member, named⟩

/-- A corpus loses the keys of its declarations that another one does not retain. -/
theorem LostIn.of_keys {first second : Corpus} {key : String}
    (keyed : first.Keys first.declaredNames key) (gone : ¬second.Retains key) :
    first.LostIn second := by
  rw [Retains, not_or] at gone
  by_cases offered : first.Offers key
  · exact Or.inl ⟨key, offered, gone.1⟩
  · exact Or.inr ⟨key, (Side.keys_iff_keysUnbound offered _).mp keyed, gone.2⟩

end Corpus

namespace Difference

variable {first second : Corpus} {suppressions : List Suppression} {options : Options}

/-- The functions listed as removed go by the keys of functions of the first corpus that no function of
the second one goes by. -/
theorem exists_mem_removedFunctions_iff {key : String} :
    (∃ change ∈ (ofCorpora first second suppressions options).removedFunctions, change.key = key) ↔
      first.Keys first.functionNames key ∧ ¬second.Keys second.functionNames key := by
  rw [← Side.contains_functions, ← Side.contains_functions, Bool.not_eq_true]
  exact exists_mem_onlyIn (fun _ _ => rfl) _ _ key

/-- The variables listed as removed go by the keys of variables of the first corpus that no variable of
the second one goes by. -/
theorem exists_mem_removedVariables_iff {key : String} :
    (∃ change ∈ (ofCorpora first second suppressions options).removedVariables, change.key = key) ↔
      first.Keys first.globalNames key ∧ ¬second.Keys second.globalNames key := by
  rw [← Side.contains_globals, ← Side.contains_globals, Bool.not_eq_true]
  exact exists_mem_onlyIn (fun _ _ => rfl) _ _ key

/-- What is listed as a removed declaration goes by a key of the first corpus. -/
theorem keys_of_mem_removed {change : EntityChange}
    (member : change ∈ (ofCorpora first second suppressions options).removedFunctions ++
      (ofCorpora first second suppressions options).removedVariables) :
    first.Keys first.declaredNames change.key := by
  rcases List.mem_append.mp member with function | variable_
  · exact (exists_mem_removedFunctions_iff.mp ⟨change, function, rfl⟩).1.mono
      (List.subset_append_left _ _)
  · exact (exists_mem_removedVariables_iff.mp ⟨change, variable_, rfl⟩).1.mono
      (List.subset_append_right _ _)

/-- What is listed as a removed symbol was offered by the first corpus and is not by the second. -/
theorem offers_of_mem_removedSymbols {change : SymbolChange}
    (member : change ∈ (ofCorpora first second suppressions options).removedFunctionSymbols ++
      (ofCorpora first second suppressions options).removedVariableSymbols) :
    first.Offers change.symbol.idString ∧ ¬second.Offers change.symbol.idString := by
  cases shown : options.showUnreferenced with
  | false => simp [ofCorpora, shown] at member
  | true =>
    have listed := (exists_mem_removedSymbols first second suppressions options shown _).mp
      ((List.mem_append.mp member).imp (⟨change, ·, rfl⟩) (⟨change, ·, rfl⟩))
    obtain ⟨offered, _, lacking⟩ := (exists_mem_unreferenced _ _ _ _ _).mp listed
    refine ⟨offered, fun there => ?_⟩
    rw [← Side.contains_interfaceOf] at there
    exact Bool.false_ne_true (lacking.symm.trans there)

/-- A difference is incompatible if and only if a declaration or a symbol is listed as removed that no
suppression hides. -/
theorem isIncompatible_iff (difference : Difference) :
    difference.isIncompatible = true ↔
      (∃ change ∈ difference.removedFunctions ++ difference.removedVariables,
          change.isSuppressed = false) ∨
        ∃ change ∈ difference.removedFunctionSymbols ++ difference.removedVariableSymbols,
          change.isSuppressed = false := by
  rw [isIncompatible, ← List.any_append, Bool.or_assoc, ← List.any_append]
  simp only [Bool.or_eq_true, List.any_eq_true, Bool.not_eq_true']

/-- That an incompatible difference means a loss holds exactly for corpora of which the first does lose
something, and where suppressions hide every declaration that is listed as removed under a retained key.

Proof: if nothing is lost, no symbol is listed as removed, and the second corpus retains the keys of all
declarations of the first. So these are what makes the difference incompatible. -/
theorem lostIn_of_isIncompatible_iff (first second : Corpus) (suppressions : List Suppression)
    (options : Options) :
    ((ofCorpora first second suppressions options).isIncompatible = true → first.LostIn second) ↔
      first.LostIn second ∨
        ∀ change ∈ (ofCorpora first second suppressions options).removedFunctions ++
            (ofCorpora first second suppressions options).removedVariables,
          second.Retains change.key → change.isSuppressed = true := by
  rw [isIncompatible_iff]
  constructor
  · intro means
    rw [or_iff_not_imp_left]
    intro intact change member _
    by_contra shown
    exact intact (means (Or.inl ⟨change, member, Bool.eq_false_of_not_eq_true shown⟩))
  · rintro (lost | hidden)
    · exact fun _ => lost
    · rintro (⟨change, member, shown⟩ | ⟨change, member, _⟩)
      · refine .of_keys (keys_of_mem_removed member) fun retained => ?_
        exact Bool.false_ne_true (shown.symm.trans (hidden change member retained))
      · exact Or.inl ⟨_, offers_of_mem_removedSymbols member⟩

/-- A library with one symbol, which it may declare as a function. -/
def resuming (isDeclared : Bool) : Corpus where
  path := "libresume.so"
  table := tableOf [{ index := 1, name := "resume", typeCode := 2, value := 0x1000 }]
  types := { nodes := #[.void] }
  functions :=
    if isDeclared then [{ name := "resume", linkageName := some "resume", result := 0 }] else []

/-- A library that keeps its symbol and only stops to declare it counts as incompatible, although nothing
is lost. -/
theorem undeclared_isIncompatible :
    (ofCorpora (resuming true) (resuming false) [] {}).isIncompatible = true ∧
      ¬(resuming true).LostIn (resuming false) := by
  refine ⟨by decide +kernel, ?_⟩
  rintro (⟨id, offered, gone⟩ | ⟨key, unbound, _⟩)
  · -- Both have the same symbols, and what is offered depends on these alone.
    exact gone offered
  · obtain ⟨declared, member, free, _⟩ := unbound
    have only : (resuming true).declaredNames = [(some "resume", "resume")] := rfl
    have bound : (resuming true).bound? (some "resume") = some 0 := by decide +kernel
    rw [only, List.mem_singleton] at member
    rw [member, bound] at free
    contradiction

end Difference

end Abiscope
