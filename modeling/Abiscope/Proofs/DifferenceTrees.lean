import Abiscope.Proofs.StraightComparisons

/-!
# Trees of findings

A difference is a tree, and where it was pruned depends on what was remembered. What stands in it does
not: every finding is about a part of the pair that the finding above it is about, reached as that part
is, and it is judged by what stands below it. A result that is remembered is such a tree by itself, so
it may be put wherever its pair is met again.

One thing is never found below a pair: the pair itself as its own part, reached in the same way. It is
being compared at that time, and its result is not remembered before that ends.
-/

namespace Abiscope

/-! ## Findings and what they lie in -/

/-- The pair of types that a finding is about. -/
def Finding.pair (finding : Finding) : Nat × Nat := (finding.old, finding.new)

/-- All findings in the order of the tree, each with those that it lies in, the outermost first. -/
def Findings.located : Findings → List (List Finding × Finding)
  | .empty => []
  | .cons _ finding inside beside =>
    (([], finding) :: inside.located.map fun entry => (finding :: entry.1, entry.2)) ++ beside.located

/-- All findings in the order of the tree, each with those that it lies in, the outermost first. -/
def TypeDifference.located (difference : TypeDifference) : List (List Finding × Finding) :=
  ([], difference.finding) ::
    difference.inside.located.map fun entry => (difference.finding :: entry.1, entry.2)

/-- The findings of a tree are located in its order, each in as many findings as it lies deep. -/
theorem Findings.map_located (findings : Findings) (depth : Nat) :
    findings.located.map (fun entry => (depth + entry.1.length, entry.2)) =
      (findings.preorder depth).map fun placed => (placed.depth, placed.difference.finding) := by
  induction findings generalizing depth with
  | empty => rfl
  | cons role finding inside beside ofInside ofBeside =>
    have deeper := ofInside (depth + 1)
    simp only [Nat.add_right_comm depth 1] at deeper
    simp only [located, preorder, List.map_cons, List.map_append, List.map_map, Function.comp_def,
      List.length_cons, List.cons_append, ← deeper, ← ofBeside depth]
    rfl

/-- The findings of a difference are located in its order, each in as many findings as it lies deep. -/
theorem TypeDifference.map_located (difference : TypeDifference) :
    difference.located.map (fun entry => (entry.1.length, entry.2)) =
      difference.preorder.map fun placed => (placed.depth, placed.difference.finding) := by
  have below := difference.inside.map_located 1
  simp only [located, preorder, List.map_cons, List.map_map, Function.comp_def, List.length_cons,
    ← below, Nat.add_comm 1]
  rfl

namespace TypeComparison

variable {comparison : TypeComparison} {above part : TypePart} {memory : Memory}

/-! ## What stands below a part -/

/-- Findings that may stand below a part. Each is about a part of it and judged by what may stand below
that one; a part that is the same pair again is reached in another way. -/
inductive Below (comparison : TypeComparison) : TypePart → Findings → Prop where
  | empty {above : TypePart} : Below comparison above .empty
  | cons {above part : TypePart} {finding : Finding} {inside beside : Findings}
    (isPart : part ∈ comparison.partsOf above)
    (differs : part.pair = above.pair → part.reach ≠ above.reach)
    (judged : comparison.judge part inside = some ⟨finding, inside⟩)
    (ofPart : Below comparison part inside) (ofOthers : Below comparison above beside) :
    Below comparison above (.cons part.role finding inside beside)

/-- A difference that may be found for a part. -/
structure FoundFor (comparison : TypeComparison) (part : TypePart) (difference : TypeDifference) :
    Prop where
  judged : comparison.judge part difference.inside = some difference
  inside : comparison.Below part difference.inside

/-- What stands below a part depends on its pair and the way of reaching it. -/
theorem Below.congr {left right : TypePart} {findings : Findings}
    (below : comparison.Below left findings) (pairs : left.pair = right.pair)
    (reaches : left.reach = right.reach) : comparison.Below right findings := by
  induction below with
  | empty => exact .empty
  | @cons above part finding inside beside isPart differs judged ofPart _ _ inductionHypothesis =>
    refine .cons ?_ ?_ judged ofPart (inductionHypothesis pairs reaches)
    · rw [← partsOf_congr pairs reaches]
      exact isPart
    · rw [← pairs, ← reaches]
      exact differs

/-- What is found for a part depends on its pair and the way of reaching it. -/
theorem FoundFor.congr {left right : TypePart} {difference : TypeDifference}
    (found : comparison.FoundFor left difference) (pairs : left.pair = right.pair)
    (reaches : left.reach = right.reach) : comparison.FoundFor right difference := by
  refine ⟨?_, found.inside.congr pairs reaches⟩
  rw [← judge_congr pairs reaches]
  exact found.judged

/-- What is found for a part has a reason, says what the part is and has below it what it was judged
by. -/
theorem judge_eq_some {findings : Findings} {difference : TypeDifference}
    (judged : comparison.judge part findings = some difference) :
    (comparison.changesAt part.pair ≠ [] ∨ findings ≠ .empty) ∧
      difference.finding.pair = part.pair ∧ difference.finding.reach = part.reach ∧
      difference.inside = findings := by
  rw [judge] at judged
  obtain ⟨reason, judged⟩ := Option.ite_none_left_eq_some.mp judged
  obtain rfl := Option.some.inj judged
  refine ⟨?_, rfl, rfl, rfl⟩
  by_contra nothing
  obtain ⟨unchanged, empty⟩ := not_or.mp nothing
  refine reason ?_
  rw [Bool.and_eq_true, List.isEmpty_iff]
  exact ⟨not_not.mp unchanged, not_not.mp empty ▸ rfl⟩

/-- A finding fails exactly where the size of its old type is not found. -/
theorem failure?_of_judge {findings : Findings} {difference : TypeDifference}
    (judged : comparison.judge part findings = some difference) :
    difference.finding.failure? = comparison.first.sizeFailure? difference.finding.old := by
  rw [judge] at judged
  obtain rfl := Option.some.inj (Option.ite_none_left_eq_some.mp judged).2
  rfl

/-- Something is found for a part if something is found about its parts. -/
theorem exists_judge_of_ne_empty {findings : Findings} (reason : findings ≠ .empty) :
    ∃ difference, comparison.judge part findings = some difference := by
  cases findings with
  | empty => exact absurd rfl reason
  | cons role finding inside beside =>
    rw [judge, Findings.isEmpty, Bool.and_false]
    exact ⟨_, rfl⟩

/-- A difference that is judged by what may stand below a part is one that may be found for it. -/
theorem FoundFor.of_judge {findings : Findings} {difference : TypeDifference}
    (below : comparison.Below part findings)
    (judged : comparison.judge part findings = some difference) :
    comparison.FoundFor part difference := by
  obtain rfl := (judge_eq_some judged).2.2.2
  exact ⟨judged, below⟩

/-- The finding about a part says what the part is. -/
theorem FoundFor.finding {difference : TypeDifference} (found : comparison.FoundFor part difference) :
    difference.finding.pair = part.pair ∧ difference.finding.reach = part.reach :=
  ⟨(judge_eq_some found.judged).2.1, (judge_eq_some found.judged).2.2.1⟩

/-- Every finding that stands below a part is judged by what stands below it. -/
theorem Below.exists_judged {findings : Findings} (below : comparison.Below above findings) :
    ∀ entry ∈ findings.located, ∃ part inside, comparison.judge part inside = some ⟨entry.2, inside⟩ := by
  induction below with
  | empty => exact fun _ impossible => by contradiction
  | cons _ _ judged _ _ ofInside ofBeside =>
    intro entry member
    rcases List.mem_append.mp member with within | others
    · rcases List.mem_cons.mp within with rfl | deeper
      · exact ⟨_, _, judged⟩
      · obtain ⟨inner, innerMember, rfl⟩ := List.mem_map.mp deeper
        exact ofInside inner innerMember
    · exact ofBeside entry others

/-- Every finding of a difference is judged by what stands below it. -/
theorem FoundFor.exists_judged {difference : TypeDifference} (found : comparison.FoundFor part difference) :
    ∀ entry ∈ difference.located, ∃ part inside,
      comparison.judge part inside = some ⟨entry.2, inside⟩ := by
  intro entry member
  rcases List.mem_cons.mp member with rfl | deeper
  · exact ⟨_, _, found.judged⟩
  · obtain ⟨inner, innerMember, rfl⟩ := List.mem_map.mp deeper
    exact found.inside.exists_judged inner innerMember

/-- Every remembered difference may be found for the part that it is remembered for. -/
def RecallsFound (comparison : TypeComparison) (memory : Memory) : Prop :=
  ∀ part : TypePart, comparison.Names part.pair → ∀ difference,
    memory.get? (comparison.key part) = some (some difference) → comparison.FoundFor part difference

/-- Remembering what may be found keeps this. -/
theorem RecallsFound.insert {result : Option TypeDifference} (recalls : comparison.RecallsFound memory)
    (named : comparison.Names part.pair)
    (found : ∀ difference, result = some difference → comparison.FoundFor part difference) :
    comparison.RecallsFound (memory.insert (comparison.key part) result) := by
  intro other otherNamed difference known
  rw [Std.TreeMap.get?_eq_getElem?, Std.TreeMap.getElem?_insert] at known
  by_cases same : Ord.compare (comparison.key part) (comparison.key other) = .eq
  · rw [if_pos same, Option.some_inj] at known
    obtain ⟨pairs, reaches⟩ := key_inj named otherNamed (Std.LawfulEqOrd.eq_of_compare same)
    exact (found difference known).congr pairs reaches
  · rw [if_neg same] at known
    exact recalls other otherNamed difference known

/-- Parts about one pair that are reached alike are remembered under one key. -/
theorem key_congr {left right : TypePart} (pairs : left.pair = right.pair)
    (reaches : left.reach = right.reach) : comparison.key left = comparison.key right := by
  rw [TypePart.pair, TypePart.pair, Prod.mk.injEq] at pairs
  simp only [key, number, pairs.1, pairs.2, reaches]

/-- What is remembered for an entered pair, reached in some way, is not set before the pair is left. -/
def StaysUnknown (comparison : TypeComparison) (trail : Trail comparison.pairs)
    (memory after : Memory) : Prop :=
  ∀ entered : TypePart, comparison.number entered ∈ trail.nodes →
    memory.get? (comparison.key entered) = none → after.get? (comparison.key entered) = none

/-- The key of a pair that is not on a trail is not that of an entered one. -/
theorem key_ne_of_not_mem {trail : Trail comparison.pairs} {entered : TypePart}
    (fresh : comparison.number part ∉ trail.nodes)
    (member : comparison.number entered ∈ trail.nodes) :
    comparison.key part ≠ comparison.key entered := by
  intro same
  have numbers : comparison.number part = comparison.number entered := by
    simp only [key] at same
    split at same <;> split at same <;> omega
  exact fresh (numbers ▸ member)

/-- Runs that start from a memory of such differences find such differences, and remember them. An
entered pair that is not remembered is not found again, nor remembered meanwhile.

Proof: by induction over runs. Findings about parts stand below every pair that has these parts, if it
is entered and not remembered in the way in which it is reached. -/
theorem found_run (comparison : TypeComparison) :
    (∀ trail part memory, comparison.RecallsFound memory →
      comparison.RecallsFound (comparison.compareOn trail part memory).2 ∧
        comparison.StaysUnknown trail memory (comparison.compareOn trail part memory).2 ∧
        (∀ difference, (comparison.compareOn trail part memory).1.difference = some difference →
          comparison.FoundFor part difference) ∧
        (comparison.Names part.pair → comparison.number part ∈ trail.nodes →
          memory.get? (comparison.key part) = none →
          (comparison.compareOn trail part memory).1.difference = none)) ∧
    ∀ trail parts memory, comparison.RecallsFound memory →
      comparison.RecallsFound (comparison.compareEach trail parts memory).2.2 ∧
        comparison.StaysUnknown trail memory (comparison.compareEach trail parts memory).2.2 ∧
        ∀ above : TypePart, comparison.Names above.pair → comparison.number above ∈ trail.nodes →
          memory.get? (comparison.key above) = none →
          (∀ part ∈ parts, part ∈ comparison.partsOf above) →
          comparison.Below above (comparison.compareEach trail parts memory).1 := by
  apply run_induction comparison
    (fun trail part memory outcome after => comparison.RecallsFound memory →
      comparison.RecallsFound after ∧ comparison.StaysUnknown trail memory after ∧
        (∀ difference, outcome.difference = some difference → comparison.FoundFor part difference) ∧
        (comparison.Names part.pair → comparison.number part ∈ trail.nodes →
          memory.get? (comparison.key part) = none → outcome.difference = none))
    (fun trail parts memory findings _ after => comparison.RecallsFound memory →
      comparison.RecallsFound after ∧ comparison.StaysUnknown trail memory after ∧
        ∀ above : TypePart, comparison.Names above.pair → comparison.number above ∈ trail.nodes →
          memory.get? (comparison.key above) = none →
          (∀ part ∈ parts, part ∈ comparison.partsOf above) → comparison.Below above findings)
  case unnamed =>
    intro trail part memory unnamed recalls
    exact ⟨recalls, fun _ _ unknown => unknown, fun _ => FoundFor.of_judge .empty,
      fun named => absurd named unnamed⟩
  case known =>
    intro trail part memory result named known recalls
    refine ⟨recalls, fun _ _ unknown => unknown, ?_, ?_⟩
    · rintro difference rfl
      exact recalls part named difference known
    · intro _ _ unknown
      rw [known] at unknown
      contradiction
  case entered =>
    intro trail part memory _ _ _ recalls
    exact ⟨recalls, fun _ _ unknown => unknown, fun _ impossible => by contradiction,
      fun _ _ _ => rfl⟩
  case settled =>
    intro trail part memory findings cut after named fresh unknown inductionHypothesis _ recalls
    obtain ⟨recallsAfter, stays, below⟩ := inductionHypothesis recalls
    have found (difference : TypeDifference)
        (judged : comparison.judge part findings = some difference) :
        comparison.FoundFor part difference :=
      .of_judge (below part named List.mem_cons_self unknown fun _ member => member) judged
    refine ⟨recallsAfter.insert named found, ?_, found, fun _ entered => absurd entered fresh⟩
    intro entered member enteredUnknown
    rw [Std.TreeMap.get?_eq_getElem?, Std.TreeMap.getElem?_insert, if_neg,
      ← Std.TreeMap.get?_eq_getElem?]
    · exact stays entered (List.mem_cons_of_mem _ member) enteredUnknown
    · intro same
      exact key_ne_of_not_mem fresh member (Std.LawfulEqOrd.eq_of_compare same)
  case pending =>
    intro trail part memory findings cut after depth named fresh unknown inductionHypothesis _ recalls
    obtain ⟨recallsAfter, stays, below⟩ := inductionHypothesis recalls
    refine ⟨recallsAfter, ?_, ?_, fun _ entered => absurd entered fresh⟩
    · exact fun entered member => stays entered (List.mem_cons_of_mem _ member)
    · exact fun _ => .of_judge (below part named List.mem_cons_self unknown fun _ member => member)
  case nil =>
    intro trail memory recalls
    exact ⟨recalls, fun _ _ unknown => unknown, fun _ _ _ _ _ => .empty⟩
  case cons =>
    intro trail part rest memory outcome between findings cut after ofPart ofRest recalls
    obtain ⟨recallsBetween, staysBetween, found, lost⟩ := ofPart recalls
    obtain ⟨recallsAfter, staysAfter, below⟩ := ofRest recallsBetween
    refine ⟨recallsAfter, fun entered member unknown =>
      staysAfter entered member (staysBetween entered member unknown), ?_⟩
    intro above named member unknown areParts
    have others := below above named member (staysBetween above member unknown)
      fun inner isRest => areParts inner (List.mem_cons_of_mem _ isRest)
    cases result : outcome.difference with
    | none => exact others
    | some difference =>
      have foundFor := found difference result
      refine .cons (areParts part List.mem_cons_self) ?_ foundFor.judged foundFor.inside others
      intro pairs reaches
      have keys : comparison.key part = comparison.key above := key_congr pairs reaches
      have open_ : comparison.numberOf part.pair ∈ trail.nodes := pairs ▸ member
      have missed := lost (pairs ▸ named) open_ (keys ▸ unknown)
      rw [result] at missed
      contradiction

/-- Whatever was compared before, what is remembered may be found. -/
theorem recallsFound_memoryAfter (calls : List (Nat × Nat × Reach)) :
    comparison.RecallsFound (comparison.memoryAfter calls) := by
  refine memoryAfter_induction ?_ ?_ calls
  · intro part _ difference known
    rw [get?_empty] at known
    contradiction
  · intro memory recalls old new reach
    exact (comparison.found_run.1 Trail.start ⟨"", old, new, reach⟩ memory recalls).1

/-- What a comparison returns, after any others, may be found for its pair. -/
theorem foundFor_compare {calls : List (Nat × Nat × Reach)} {old new : Nat} {reach : Reach}
    {difference : TypeDifference}
    (returned : (comparison.compare old new reach (comparison.memoryAfter calls)).1 =
      some difference) :
    comparison.FoundFor ⟨"", old, new, reach⟩ difference :=
  (comparison.found_run.1 Trail.start ⟨"", old, new, reach⟩ _
    (recallsFound_memoryAfter calls)).2.2.1 difference returned

end TypeComparison

end Abiscope
