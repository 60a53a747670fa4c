import Abiscope.Proofs.ComparisonRuns
import Abiscope.Proofs.RelatedRuns

/-!
# Runs with other labels

Labels are put on findings and never looked at again while types are compared. So two runs that compare
the same types with different suppressions cut the same circles, remember results for the same pairs and
find the same, except for the labels. If the labels that the two suppressions give are related whatever
they are asked, the labels of the findings are related place by place.
-/

namespace Abiscope

/-- Two findings that say the same, with related labels. -/
structure Finding.Related (labels : Option String → Option String → Prop) (left right : Finding) :
    Prop where
  same : { left with suppressedBy := none } = { right with suppressedBy := none }
  labels : labels left.suppressedBy right.suppressedBy

/-- The same findings in the same places, with related labels. -/
inductive Findings.Related (labels : Option String → Option String → Prop) :
    Findings → Findings → Prop where
  | empty : Related labels .empty .empty
  | cons (role : String) {left right : Finding}
    {leftInside rightInside leftBeside rightBeside : Findings} (finding : left.Related labels right)
    (inside : Related labels leftInside rightInside)
    (beside : Related labels leftBeside rightBeside) :
    Related labels (.cons role left leftInside leftBeside) (.cons role right rightInside rightBeside)

/-- The same differences, with related labels. -/
structure TypeDifference.Related (labels : Option String → Option String → Prop)
    (left right : TypeDifference) : Prop where
  finding : left.finding.Related labels right.finding
  inside : left.inside.Related labels right.inside

variable {labels : Option String → Option String → Prop}

/-- Related findings are there together. -/
theorem Findings.Related.isEmpty {left right : Findings} (related : left.Related labels right) :
    left.isEmpty = right.isEmpty := by
  cases related <;> rfl

namespace TypeComparison

/-- The comparison of the same types with another suppression. -/
def relabel (comparison : TypeComparison) (label? : Suppression.TypeFacts → Option String) :
    TypeComparison :=
  { comparison with label? := label? }

variable {comparison : TypeComparison} {label? : Suppression.TypeFacts → Option String}

/-- What is placed before related findings stays related. -/
theorem place_related (role : String) {left right : Option TypeDifference}
    {leftBeside rightBeside : Findings}
    (related : Option.Rel (TypeDifference.Related labels) left right)
    (beside : leftBeside.Related labels rightBeside) :
    (place role left leftBeside).Related labels (place role right rightBeside) := by
  cases related with
  | none => exact beside
  | some related => exact .cons role related.finding related.inside beside

/-- A suppression is asked the same about related findings, so judging them puts related labels on the
same difference. -/
theorem judge_related (related : ∀ facts, labels (comparison.label? facts) (label? facts))
    (part : TypePart) {left right : Findings} (inside : left.Related labels right) :
    Option.Rel (TypeDifference.Related labels) (comparison.judge part left)
      ((comparison.relabel label?).judge part right) := by
  have facts (changes : List TypeChange) : comparison.factsOf part changes left =
      (comparison.relabel label?).factsOf part changes right := by
    simp only [factsOf, insertedOffsets, changedEnumerators, inside.isEmpty, relabel]
  rw [judge, judge, inside.isEmpty]
  split
  · rename_i nothing
    rw [relabel, if_pos nothing]
    exact .none
  · rename_i something
    rw [relabel, if_neg something]
    refine .some ⟨⟨rfl, ?_⟩, inside⟩
    rw [facts]
    exact related _

/-- Two memories that hold related results under the same keys. -/
def MemoriesRelated (labels : Option String → Option String → Prop) (one other : Memory) : Prop :=
  ∀ key, Option.Rel (Option.Rel (TypeDifference.Related labels)) (one.get? key) (other.get? key)

/-- Remembering related results keeps memories related. -/
theorem MemoriesRelated.insert {one other : Memory} (memories : MemoriesRelated labels one other)
    (key : Nat) {left right : Option TypeDifference}
    (related : Option.Rel (TypeDifference.Related labels) left right) :
    MemoriesRelated labels (one.insert key left) (other.insert key right) := by
  intro asked
  rw [Std.TreeMap.get?_eq_getElem?, Std.TreeMap.get?_eq_getElem?, Std.TreeMap.getElem?_insert,
    Std.TreeMap.getElem?_insert]
  by_cases same : Ord.compare key asked = .eq
  · rw [if_pos same, if_pos same]
    exact .some related
  · rw [if_neg same, if_neg same]
    exact memories asked

/-- What one of two related memories holds, the other holds with other labels. -/
theorem MemoriesRelated.exists_get? {one other : Memory} (memories : MemoriesRelated labels one other)
    {key : Nat} {difference : Option TypeDifference} (found : one.get? key = some difference) :
    ∃ same, other.get? key = some same ∧
      Option.Rel (TypeDifference.Related labels) difference same := by
  have remembered := memories key
  rw [found] at remembered
  cases otherFound : other.get? key with
  | none =>
    rw [otherFound] at remembered
    cases remembered
  | some same =>
    rw [otherFound] at remembered
    cases remembered with
    | some related => exact ⟨same, rfl, related⟩

/-- What one of two related memories does not hold, the other does not hold either. -/
theorem MemoriesRelated.get?_eq_none {one other : Memory} (memories : MemoriesRelated labels one other)
    {key : Nat} (unknown : one.get? key = none) : other.get? key = none := by
  have remembered := memories key
  rw [unknown] at remembered
  cases found : other.get? key with
  | none => rfl
  | some difference =>
    rw [found] at remembered
    cases remembered

/-- With other labels, too, a pair is entered that is neither known nor on the trail. -/
theorem compareOn_of_fresh (trail : Trail comparison.pairs) {part : TypePart} {memory : Memory}
    (named : comparison.Names part.pair) (unknown : memory.get? (comparison.key part) = none)
    (fresh : comparison.number part ∉ trail.nodes) :
    (comparison.relabel label?).compareOn trail part memory =
      (comparison.relabel label?).settle trail.nodes.length part
        ((comparison.relabel label?).compareEach (trail.enter _ fresh (number_lt named))
          (comparison.partsOf part) memory) :=
  compareOn_of_not_mem (comparison.relabel label?) trail named unknown fresh

/-- A run with other labels, from a related memory, has the same cut, related findings and a related
memory.

Proof: by induction over runs. What is remembered, and what is on the trail, does not depend on labels,
so the second run takes each step that the first one takes. -/
theorem run_related (related : ∀ facts, labels (comparison.label? facts) (label? facts)) :
    (∀ trail part memory, ∀ other, MemoriesRelated labels memory other →
      Option.Rel (TypeDifference.Related labels) (comparison.compareOn trail part memory).1.difference
          ((comparison.relabel label?).compareOn trail part other).1.difference ∧
        (comparison.compareOn trail part memory).1.cut =
          ((comparison.relabel label?).compareOn trail part other).1.cut ∧
        MemoriesRelated labels (comparison.compareOn trail part memory).2
          ((comparison.relabel label?).compareOn trail part other).2) ∧
    ∀ trail parts memory, ∀ other, MemoriesRelated labels memory other →
      (comparison.compareEach trail parts memory).1.Related labels
          ((comparison.relabel label?).compareEach trail parts other).1 ∧
        (comparison.compareEach trail parts memory).2.1 =
          ((comparison.relabel label?).compareEach trail parts other).2.1 ∧
        MemoriesRelated labels (comparison.compareEach trail parts memory).2.2
          ((comparison.relabel label?).compareEach trail parts other).2.2 := by
  apply run_induction comparison
    (fun trail part memory outcome after => ∀ other, MemoriesRelated labels memory other →
      Option.Rel (TypeDifference.Related labels) outcome.difference
          ((comparison.relabel label?).compareOn trail part other).1.difference ∧
        outcome.cut = ((comparison.relabel label?).compareOn trail part other).1.cut ∧
        MemoriesRelated labels after ((comparison.relabel label?).compareOn trail part other).2)
    (fun trail parts memory findings cut after => ∀ other,
      MemoriesRelated labels memory other →
      findings.Related labels ((comparison.relabel label?).compareEach trail parts other).1 ∧
        cut = ((comparison.relabel label?).compareEach trail parts other).2.1 ∧
        MemoriesRelated labels after ((comparison.relabel label?).compareEach trail parts other).2.2)
  case unnamed =>
    intro trail part memory unnamed other memories
    rw [compareOn_of_not_names (comparison.relabel label?) trail other unnamed]
    exact ⟨judge_related related part .empty, rfl, memories⟩
  case known =>
    intro trail part memory difference named found other memories
    obtain ⟨otherDifference, otherFound, same⟩ := memories.exists_get? found
    rw [compareOn_of_known (comparison.relabel label?) trail named otherFound]
    exact ⟨same, rfl, memories⟩
  case entered =>
    intro trail part memory named unknown entered other memories
    rw [compareOn_of_mem (comparison.relabel label?) trail named
      (memories.get?_eq_none unknown) entered]
    exact ⟨.none, rfl, memories⟩
  case settled =>
    intro trail part memory findings cut after named fresh unknown inductionHypothesis shut other
      memories
    obtain ⟨findingsRelated, sameCut, afterRelated⟩ := inductionHypothesis other memories
    rw [compareOn_of_fresh trail named (memories.get?_eq_none unknown) fresh, settle, ← sameCut, shut]
    have judged := judge_related related part findingsRelated
    exact ⟨judged, rfl, afterRelated.insert _ judged⟩
  case pending =>
    intro trail part memory findings cut after depth named fresh unknown inductionHypothesis open_
      other memories
    obtain ⟨findingsRelated, sameCut, afterRelated⟩ := inductionHypothesis other memories
    rw [compareOn_of_fresh trail named (memories.get?_eq_none unknown) fresh, settle, ← sameCut, open_]
    exact ⟨judge_related related part findingsRelated, rfl, afterRelated⟩
  case nil =>
    intro trail memory other memories
    rw [compareEach_nil (comparison.relabel label?) trail other]
    exact ⟨.empty, rfl, memories⟩
  case cons =>
    intro trail part rest memory outcome between findings cut after ofPart ofRest other memories
    obtain ⟨partRelated, partCut, betweenRelated⟩ := ofPart other memories
    obtain ⟨restRelated, restCut, afterRelated⟩ := ofRest _ betweenRelated
    rw [compareEach_cons (comparison.relabel label?) trail part rest other, partCut,
      restCut]
    exact ⟨place_related part.role partRelated restRelated, rfl, afterRelated⟩

/-- Comparing two types with other labels gives related differences and keeps memories related. -/
theorem relates_relabelled (comparison : TypeComparison)
    (label? : Suppression.TypeFacts → Option String)
    (related : ∀ facts, labels (comparison.label? facts) (label? facts))
    (old new : Nat) (reach : Reach) :
    Relates (MemoriesRelated labels) (Option.Rel (TypeDifference.Related labels))
      (comparison.compare old new reach) ((comparison.relabel label?).compare old new reach) := by
  intro one other memories
  obtain ⟨difference, _, after⟩ :=
    (run_related related).1 Trail.start ⟨"", old, new, reach⟩ one other memories
  exact ⟨difference, after⟩

end TypeComparison

end Abiscope
