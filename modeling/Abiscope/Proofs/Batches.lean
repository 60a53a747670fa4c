import Abiscope.Command.Run
import Abiscope.Proofs.FurtherRules
import Abiscope.Proofs.Readings
import Mathlib.Data.List.TakeWhile

/-!
# Batches

A batch compares pairs of binaries and says about each of them what a comparison of that pair alone would
say, below a line that names the pair. The exit code has the flags of all single runs. Where a binary
cannot be read, the batch notes this for its pair and goes on.

There is one failure that a batch does not survive. An image of a kernel that marks an export twice is
taken for corrupt, and whoever reads it stops at once: a comparison of this pair alone, and a batch that has
the pair among others. Nothing is printed then, as the batch prints when all pairs have been compared.
-/

namespace Abiscope

namespace Command

/-- A word names the paths of a pair, which its first colon sets apart. -/
structure IsPair (word : String) (pair : String × String) : Prop where
  word_eq : word = pair.1 ++ ":" ++ pair.2
  first_ne : pair.1 ≠ ""
  second_ne : pair.2 ≠ ""
  colon_notMem : ':' ∉ pair.1.toList

/-- A word that names a pair is read as this pair. -/
theorem pairOf_of_isPair {word : String} {pair : String × String} (named : IsPair word pair) :
    pairOf word = .ok pair := by
  have characters : word.toList = pair.1.toList ++ ':' :: pair.2.toList := by
    rw [named.word_eq, String.toList_append, String.toList_append, List.append_assoc]
    rfl
  have plain : ∀ character ∈ pair.1.toList, (character != ':') = true := by
    intro character member
    rw [bne_iff_ne]
    exact fun same => named.colon_notMem (same ▸ member)
  have old : word.toList.takeWhile (· != ':') = pair.1.toList := by
    rw [characters, List.takeWhile_append_of_pos plain, List.takeWhile_cons_of_neg (by decide),
      List.append_nil]
  have new : word.toList.dropWhile (· != ':') = ':' :: pair.2.toList := by
    rw [characters, List.dropWhile_append_of_pos plain, List.dropWhile_cons_of_neg (by decide)]
  have first : pair.1.toList.isEmpty = false :=
    List.isEmpty_eq_false_iff.mpr fun empty => named.first_ne (String.toList_eq_nil_iff.mp empty)
  have second : pair.2.toList.isEmpty = false :=
    List.isEmpty_eq_false_iff.mpr fun empty => named.second_ne (String.toList_eq_nil_iff.mp empty)
  simp only [pairOf, old, new, first, second, Bool.or_self, Bool.false_eq_true, if_false,
    String.ofList_toList]

/-- The words that are read as pairs are those that name them. -/
theorem pairOf_eq_ok_iff {word : String} {pair : String × String} :
    pairOf word = .ok pair ↔ IsPair word pair := by
  refine ⟨fun made => ?_, pairOf_of_isPair⟩
  rw [pairOf] at made
  cases behind : word.toList.dropWhile (· != ':') with
  | nil =>
    simp only [behind] at made
    contradiction
  | cons separator new =>
    simp only [behind] at made
    split at made
    case isTrue => contradiction
    case isFalse given =>
      obtain ⟨oldGiven, newGiven⟩ := not_or.mp (mt (Bool.or_eq_true _ _).mpr given)
      have colon : separator = ':' := by
        have stopped := List.head?_dropWhile_not (· != ':') word.toList
        rw [behind] at stopped
        simpa using stopped
      have characters := List.takeWhile_append_dropWhile (p := (· != ':')) (l := word.toList)
      rw [behind, colon] at characters
      rw [← Except.ok.inj made]
      constructor
      case word_eq =>
        refine String.toList_inj.mp (characters.symm.trans ?_)
        simp
      case first_ne => exact fun empty => oldGiven (by simpa using congrArg String.toList empty)
      case second_ne => exact fun empty => newGiven (by simpa using congrArg String.toList empty)
      case colon_notMem =>
        rw [String.toList_ofList]
        intro member
        simpa using List.mem_takeWhile_imp member

variable (around : Surroundings) (rules : RuleFiles)

/-- The comparison of a pair on its own, with the suppressions of a batch. -/
def single (pair : String × String) : Except Failure (Status × String) :=
  (Task.diff pair.1 pair.2 rules {}).run around

variable {around rules} {suppressions : List Suppression}

end Command

end Abiscope
