import Abiscope.Proofs.ExposedChanges
import Mathlib.Logic.Relation

/-!
# When types differ

Comparing two types finds nothing exactly if no pair of types that the comparison leads to has changes
of its own. Neither the cuts of circles nor what was remembered from earlier comparisons matters for
this, and neither does the way in which the types are reached.
-/

namespace Abiscope

namespace TypeComparison

variable {comparison : TypeComparison}

/-- What is remembered after some comparisons, one after the other, of types that are reached in some
way. -/
def memoryAfter (comparison : TypeComparison) (calls : List (Nat × Nat × Reach)) : Memory :=
  calls.foldl (fun memory (old, new, reach) => (comparison.compare old new reach memory).2) ∅

/-- What holds of the empty memory and is kept by every comparison holds of what is remembered after
any comparisons. -/
theorem memoryAfter_induction {holds : Memory → Prop} (empty : holds ∅)
    (kept : ∀ memory, holds memory → ∀ old new reach,
      holds (comparison.compare old new reach memory).2)
    (calls : List (Nat × Nat × Reach)) : holds (comparison.memoryAfter calls) := by
  have general (memory : Memory) (start : holds memory) :
      holds (calls.foldl (fun memory (old, new, reach) =>
        (comparison.compare old new reach memory).2) memory) := by
    induction calls generalizing memory with
    | nil => exact start
    | cons call rest inductionHypothesis =>
      exact inductionHypothesis _ (kept memory start call.1 call.2.1 call.2.2)
  exact general ∅ empty

/-- Nothing is remembered at first. -/
theorem get?_empty (key : Nat) : (∅ : Memory).get? key = none := by
  rw [Std.TreeMap.get?_eq_getElem?, Std.TreeMap.getElem?_emptyc]

namespace Question

variable {question : comparison.Question} {memory : Memory}

/-- Comparing two types keeps the memory exact. -/
theorem Settles.compare (settles : question.Settles memory) (old new : Nat) (reach : Reach) :
    question.Settles (comparison.compare old new reach memory).2 :=
  (question.run.1 Trail.start ⟨"", old, new, reach⟩ memory settles).1

/-- With an exact memory the answer is exact, since nothing is open around the whole. -/
theorem Settles.compare_any (settles : question.Settles memory) (old new : Nat) (reach : Reach) :
    (comparison.compare old new reach memory).1.any question.holds = true ↔
      comparison.Exposes question.passes (old, new) := by
  have bounds := (question.run.1 Trail.start ⟨"", old, new, reach⟩ memory settles).2
  constructor
  · intro yes
    obtain ⟨pair, member, exposed⟩ := bounds.sound yes
    rw [List.mem_singleton.mp member] at exposed
    exact exposed
  · intro exposed
    refine bounds.complete (old, new) (List.mem_singleton_self _) (exposed.mono ?_)
    rintro pair pass
    refine ⟨pass, ?_⟩
    rintro ⟨_, impossible, _⟩
    contradiction

/-- Whatever was compared before, the memory is exact. -/
theorem settles_memoryAfter (question : comparison.Question) (calls : List (Nat × Nat × Reach)) :
    question.Settles (comparison.memoryAfter calls) := by
  refine memoryAfter_induction ?_ (fun memory settles => settles.compare) calls
  intro part _ known found
  rw [get?_empty] at found
  contradiction

end Question

/-- The question whether there is a difference. No pair hides one. -/
def difference (comparison : TypeComparison) : comparison.Question where
  holds _ := true
  passes _ := True
  answered part inside _ := by
    have found : (inside.any fun _ => true) = !inside.isEmpty := by
      cases inside <;> rfl
    rw [found, judge, changesAt, TypePart.pair]
    cases (comparison.first.localChanges comparison.second part.old part.new) <;>
      cases inside.isEmpty <;> simp

/-- Where nothing is hidden, exactly the changes that the steps lead to are exposed. -/
theorem exposes_true_iff {pair : Nat × Nat} :
    comparison.Exposes (fun _ => True) pair ↔
      ∃ other, Relation.ReflTransGen comparison.Steps pair other ∧ comparison.changesAt other ≠ [] := by
  constructor
  · intro exposed
    induction exposed with
    | @here pair _ changed => exact ⟨pair, .refl, changed⟩
    | behind _ step _ inductionHypothesis =>
      obtain ⟨other, path, changed⟩ := inductionHypothesis
      exact ⟨other, .head step path, changed⟩
  · rintro ⟨other, path, changed⟩
    induction path using Relation.ReflTransGen.head_induction_on with
    | refl => exact .here trivial changed
    | head step _ inductionHypothesis => exact .behind trivial step inductionHypothesis

/-- Two types differ exactly if the comparison leads to a pair with changes of its own: for any types,
circular or not, any suppressions, any way of being reached and any comparisons before this one. -/
theorem compare_eq_none_iff (comparison : TypeComparison) (calls : List (Nat × Nat × Reach))
    (old new : Nat) (reach : Reach) :
    (comparison.compare old new reach (comparison.memoryAfter calls)).1 = none ↔
      ∀ pair, Relation.ReflTransGen comparison.Steps (old, new) pair →
        comparison.changesAt pair = [] := by
  have exposed := (comparison.difference.settles_memoryAfter calls).compare_any old new reach
  have found (result : Option TypeDifference) :
      result.any comparison.difference.holds = true ↔ result ≠ none := by
    cases result with
    | none => exact ⟨fun impossible => by contradiction, fun impossible => absurd rfl impossible⟩
    | some difference => exact ⟨fun _ => Option.some_ne_none _, fun _ => rfl⟩
  rw [found, show comparison.difference.passes = fun _ => True from rfl, exposes_true_iff] at exposed
  constructor
  · intro same pair path
    cases changes : comparison.changesAt pair with
    | nil => rfl
    | cons change rest =>
      have changed : comparison.changesAt pair ≠ [] := by
        rw [changes]
        exact List.cons_ne_nil change rest
      exact absurd same (exposed.mpr ⟨pair, path, changed⟩)
  · intro unchanged
    cases result : (comparison.compare old new reach (comparison.memoryAfter calls)).1 with
    | none => rfl
    | some difference =>
      rw [result] at exposed
      obtain ⟨pair, path, changed⟩ := exposed.mp (Option.some_ne_none difference)
      exact absurd (unchanged pair path) changed

end TypeComparison

end Abiscope
