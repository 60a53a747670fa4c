import Abiscope.Difference.TypeComparison

/-!
# Runs of the comparison of types

A run compares one part or a list of parts, on a trail and with a memory, and leaves an outcome and
another memory. Its steps are few: a part whose numbers name no types is judged by itself, a part that
is remembered costs nothing, a part whose pair is being compared further up is cut, and any other part
is judged by the findings about its own parts. A result that no open cut lies under is remembered.

There are two induction principles over runs, one that speaks of what runs start from, and one that
speaks of their results only. What a property has to be shown for is one step each, and the measure by
which runs end does not show.
-/

namespace Abiscope

namespace TypePart

/-- The pair of types that a part is about, however it is reached. -/
def pair (part : TypePart) : Nat × Nat := (part.old, part.new)

end TypePart

namespace TypeComparison

/-- Both numbers of a pair name types. -/
def Names (comparison : TypeComparison) (pair : Nat × Nat) : Prop :=
  pair.1 < comparison.first.size ∧ pair.2 < comparison.second.size

/-- The number of a pair of types. -/
def numberOf (comparison : TypeComparison) (pair : Nat × Nat) : Nat :=
  pair.1 * comparison.second.size + pair.2

variable {comparison : TypeComparison}

/-- Pairs of types have different numbers. -/
theorem numberOf_inj {left right : Nat × Nat} (leftNamed : comparison.Names left)
    (rightNamed : comparison.Names right)
    (same : comparison.numberOf left = comparison.numberOf right) : left = right := by
  obtain ⟨olds, news⟩ := @number_inj comparison ⟨"", left.1, left.2, .direct⟩
    ⟨"", right.1, right.2, .direct⟩ leftNamed.2 rightNamed.2 same
  exact Prod.ext olds news

/-- Parts that both name types and are remembered under one key are about the same pair and reached
alike. -/
theorem key_inj {left right : TypePart} (leftNamed : comparison.Names left.pair)
    (rightNamed : comparison.Names right.pair) (same : comparison.key left = comparison.key right) :
    left.pair = right.pair ∧ left.reach = right.reach := by
  have digits : comparison.number left = comparison.number right ∧ left.reach = right.reach := by
    cases leftReach : left.reach <;> cases rightReach : right.reach <;>
      simp only [key, leftReach, rightReach, reduceCtorEq, and_true, and_false] at same ⊢ <;> omega
  exact ⟨numberOf_inj leftNamed rightNamed digits.1, digits.2⟩

variable (comparison)

/-- Compares parts one after the other on a walk that has entered the pairs of a trail. -/
def compareEach (trail : Trail comparison.pairs) (parts : List TypePart) (memory : Memory) :
    Findings × Option Nat × Memory :=
  inTurn (comparison.compareOn trail) parts memory

/-- A part whose numbers name no types is judged by itself and leaves no trace. -/
theorem compareOn_of_not_names (trail : Trail comparison.pairs) {part : TypePart} (memory : Memory)
    (unnamed : ¬comparison.Names part.pair) :
    comparison.compareOn trail part memory = (⟨comparison.judge part .empty, none⟩, memory) := by
  rw [compareOn, dif_neg (by exact unnamed)]

/-- What is remembered is not compared again. -/
theorem compareOn_of_known (trail : Trail comparison.pairs) {part : TypePart} {memory : Memory}
    {difference : Option TypeDifference} (named : comparison.Names part.pair)
    (known : memory.get? (comparison.key part) = some difference) :
    comparison.compareOn trail part memory = (⟨difference, none⟩, memory) := by
  rw [compareOn, dif_pos (by exact named), known]

/-- A pair that is being compared further up is cut. -/
theorem compareOn_of_mem (trail : Trail comparison.pairs) {part : TypePart} {memory : Memory}
    (named : comparison.Names part.pair) (unknown : memory.get? (comparison.key part) = none)
    (entered : comparison.number part ∈ trail.nodes) :
    comparison.compareOn trail part memory =
      (⟨none, some (depthOf (comparison.number part) trail.nodes)⟩, memory) := by
  rw [compareOn, dif_pos (by exact named), unknown]
  simp only [dif_pos entered]

/-- The outcome for a part, from the findings about its own parts on a trail of a given length. -/
def settle (length : Nat) (part : TypePart)
    (run : Findings × Option Nat × Memory) : Outcome × Memory :=
  (⟨comparison.judge part run.1, run.2.1.filter (· < length)⟩,
    if (run.2.1.filter (· < length)).isNone then
      run.2.2.insert (comparison.key part) (comparison.judge part run.1)
    else run.2.2)

/-- Any other pair is entered, and judged by the findings about its parts. -/
theorem compareOn_of_not_mem (trail : Trail comparison.pairs) {part : TypePart} {memory : Memory}
    (named : comparison.Names part.pair) (unknown : memory.get? (comparison.key part) = none)
    (fresh : comparison.number part ∉ trail.nodes) :
    comparison.compareOn trail part memory =
      comparison.settle trail.nodes.length part
        (comparison.compareEach (trail.enter _ fresh (number_lt named)) (comparison.partsOf part)
          memory) := by
  rw [compareOn, dif_pos (by exact named), unknown]
  simp only [dif_neg fresh]
  rfl

/-- Nothing to compare leaves no trace. -/
theorem compareEach_nil (trail : Trail comparison.pairs) (memory : Memory) :
    comparison.compareEach trail [] memory = (.empty, none, memory) :=
  rfl

/-- Parts are compared in their order, with what was remembered before. -/
theorem compareEach_cons (trail : Trail comparison.pairs) (part : TypePart) (rest : List TypePart)
    (memory : Memory) :
    comparison.compareEach trail (part :: rest) memory =
      (place part.role (comparison.compareOn trail part memory).1.difference
          (comparison.compareEach trail rest (comparison.compareOn trail part memory).2).1,
        outer (comparison.compareOn trail part memory).1.cut
          (comparison.compareEach trail rest (comparison.compareOn trail part memory).2).2.1,
        (comparison.compareEach trail rest (comparison.compareOn trail part memory).2).2.2) :=
  rfl

/-- Induction over runs by what they start from. What a run leaves is known from other theorems then.

Proof: a run of a list of parts is one run of a part after the other, all on one trail; so it is enough to
show the runs of parts, by the measure by which they end. -/
theorem call_induction (On : Trail comparison.pairs → TypePart → Memory → Prop)
    (Each : Trail comparison.pairs → List TypePart → Memory → Prop)
    (unnamed : ∀ trail part memory, ¬comparison.Names part.pair → On trail part memory)
    (known : ∀ trail part memory difference, comparison.Names part.pair →
      memory.get? (comparison.key part) = some difference → On trail part memory)
    (entered : ∀ trail part memory, comparison.Names part.pair →
      memory.get? (comparison.key part) = none → comparison.number part ∈ trail.nodes →
      On trail part memory)
    (enter : ∀ trail part memory (named : comparison.Names part.pair)
      (fresh : comparison.number part ∉ trail.nodes),
      memory.get? (comparison.key part) = none →
      Each (trail.enter _ fresh (number_lt named)) (comparison.partsOf part) memory →
      On trail part memory)
    (nil : ∀ trail memory, Each trail [] memory)
    (cons : ∀ trail part rest memory, On trail part memory →
      Each trail rest (comparison.compareOn trail part memory).2 → Each trail (part :: rest) memory) :
    (∀ trail part memory, On trail part memory) ∧
      ∀ trail parts memory, Each trail parts memory := by
  have ofLists (trail : Trail comparison.pairs) (ofParts : ∀ part memory, On trail part memory)
      (parts : List TypePart) (memory : Memory) : Each trail parts memory := by
    induction parts generalizing memory with
    | nil => exact nil trail memory
    | cons part rest inductionHypothesis =>
      exact cons trail part rest memory (ofParts part memory) (inductionHypothesis _)
  have ofParts (trail : Trail comparison.pairs) (part : TypePart) (memory : Memory) :
      On trail part memory := by
    induction trail, part, memory using compareOn.induct comparison
    case case1 trail part memory named difference remembered =>
      exact known trail part memory difference named remembered
    case case2 trail part memory named unknown before =>
      exact entered trail part memory named unknown before
    case case3 trail part memory named unknown fresh _ _ _ _ inductionHypothesis =>
      exact enter trail part memory named fresh unknown (ofLists _ inductionHypothesis _ memory)
    case case4 trail part memory outside =>
      exact unnamed trail part memory outside
  exact ⟨ofParts, fun trail => ofLists trail (ofParts trail)⟩

/-- Induction over runs. `On` relates a run that compares a part to the outcome and the memory that it
leaves, `Each` a run that compares a list of parts to its findings, its cut and its memory.

Proof: the step that enters a pair is two steps here, as the result is remembered or not. -/
theorem run_induction
    (On : Trail comparison.pairs → TypePart → Memory → Outcome → Memory → Prop)
    (Each : Trail comparison.pairs → List TypePart → Memory → Findings → Option Nat → Memory → Prop)
    (unnamed : ∀ trail part memory, ¬comparison.Names part.pair →
      On trail part memory ⟨comparison.judge part .empty, none⟩ memory)
    (known : ∀ trail part memory difference, comparison.Names part.pair →
      memory.get? (comparison.key part) = some difference →
      On trail part memory ⟨difference, none⟩ memory)
    (entered : ∀ trail part memory, comparison.Names part.pair →
      memory.get? (comparison.key part) = none → comparison.number part ∈ trail.nodes →
      On trail part memory ⟨none, some (depthOf (comparison.number part) trail.nodes)⟩ memory)
    (settled : ∀ trail part memory findings cut after (named : comparison.Names part.pair)
      (fresh : comparison.number part ∉ trail.nodes),
      memory.get? (comparison.key part) = none →
      Each (trail.enter _ fresh (number_lt named)) (comparison.partsOf part) memory findings cut
        after →
      cut.filter (· < trail.nodes.length) = none →
      On trail part memory ⟨comparison.judge part findings, none⟩
        (after.insert (comparison.key part) (comparison.judge part findings)))
    (pending : ∀ trail part memory findings cut after depth (named : comparison.Names part.pair)
      (fresh : comparison.number part ∉ trail.nodes),
      memory.get? (comparison.key part) = none →
      Each (trail.enter _ fresh (number_lt named)) (comparison.partsOf part) memory findings cut
        after →
      cut.filter (· < trail.nodes.length) = some depth →
      On trail part memory ⟨comparison.judge part findings, some depth⟩ after)
    (nil : ∀ trail memory, Each trail [] memory .empty none memory)
    (cons : ∀ trail part rest memory outcome between findings cut after,
      On trail part memory outcome between → Each trail rest between findings cut after →
      Each trail (part :: rest) memory (place part.role outcome.difference findings)
        (outer outcome.cut cut) after) :
    (∀ trail part memory, On trail part memory (comparison.compareOn trail part memory).1
      (comparison.compareOn trail part memory).2) ∧
    ∀ trail parts memory, Each trail parts memory (comparison.compareEach trail parts memory).1
      (comparison.compareEach trail parts memory).2.1
      (comparison.compareEach trail parts memory).2.2 := by
  apply call_induction comparison
    (fun trail part memory => On trail part memory (comparison.compareOn trail part memory).1
      (comparison.compareOn trail part memory).2)
    (fun trail parts memory => Each trail parts memory
      (comparison.compareEach trail parts memory).1 (comparison.compareEach trail parts memory).2.1
      (comparison.compareEach trail parts memory).2.2)
  case unnamed =>
    intro trail part memory outside
    rw [compareOn_of_not_names comparison trail memory outside]
    exact unnamed trail part memory outside
  case known =>
    intro trail part memory difference named remembered
    rw [compareOn_of_known comparison trail named remembered]
    exact known trail part memory difference named remembered
  case entered =>
    intro trail part memory named unknown before
    rw [compareOn_of_mem comparison trail named unknown before]
    exact entered trail part memory named unknown before
  case enter =>
    intro trail part memory named fresh unknown inductionHypothesis
    rw [compareOn_of_not_mem comparison trail named unknown fresh, settle]
    cases open_ : (comparison.compareEach (trail.enter _ fresh (number_lt named))
        (comparison.partsOf part) memory).2.1.filter (· < trail.nodes.length) with
    | none => exact settled trail part memory _ _ _ named fresh unknown inductionHypothesis open_
    | some depth =>
      exact pending trail part memory _ _ _ depth named fresh unknown inductionHypothesis open_
  case nil =>
    intro trail memory
    rw [compareEach_nil]
    exact nil trail memory
  case cons =>
    intro trail part rest memory ofPart ofRest
    rw [compareEach_cons]
    exact cons trail part rest memory _ _ _ _ _ ofPart ofRest

end TypeComparison

end Abiscope
