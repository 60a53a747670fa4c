import Abiscope.Proofs.SteadyVerdicts

/-!
# Comparisons without circles

Where no pair of types that a comparison leads to leads back to itself, nothing is cut, and the result
is that of comparing all parts without any memory. This holds also if the memory comes from comparisons
that did run into circles: such a circle never passes through the pairs in question, so what was
remembered about them was not cut either.
-/

namespace Abiscope

namespace TypeComparison

open Relation (ReflTransGen TransGen)

variable {comparison : TypeComparison} {memory : Memory} {parts : List TypePart}

/-- No pair that a pair leads to leads back to itself. -/
def Straight (comparison : TypeComparison) (pair : Nat × Nat) : Prop :=
  ∀ other, ReflTransGen comparison.Steps pair other → ¬TransGen comparison.Steps other other

/-- The findings about parts when nothing is cut and nothing is remembered. -/
inductive Plain (comparison : TypeComparison) : List TypePart → Findings → Prop where
  | nil : Plain comparison [] .empty
  | cons {part : TypePart} {rest : List TypePart} {inside beside : Findings}
    (ofPart : Plain comparison (comparison.partsOf part) inside)
    (ofRest : Plain comparison rest beside) :
    Plain comparison (part :: rest) (place part.role (comparison.judge part inside) beside)

/-- There is only one way to compare parts without cuts. -/
theorem Plain.unique {left right : Findings} (ofLeft : comparison.Plain parts left)
    (ofRight : comparison.Plain parts right) : left = right := by
  induction ofLeft generalizing right with
  | nil =>
    cases ofRight
    rfl
  | cons _ _ ofPart ofRest =>
    cases ofRight with
    | cons part rest => rw [ofPart part, ofRest rest]

/-- What a pair leads to is straight if the pair is. -/
theorem Straight.step {pair child : Nat × Nat} (straight : comparison.Straight pair)
    (step : comparison.Steps pair child) : comparison.Straight child :=
  fun other path => straight other (.head step path)

/-- A part is compared as its pair and the way of reaching it say. -/
theorem partsOf_congr {left right : TypePart} (pairs : left.pair = right.pair)
    (reaches : left.reach = right.reach) : comparison.partsOf left = comparison.partsOf right := by
  rw [TypePart.pair, TypePart.pair, Prod.mk.injEq] at pairs
  rw [partsOf, partsOf, pairs.1, pairs.2, reaches]

/-- A part is judged as its pair and the way of reaching it say. -/
theorem judge_congr {left right : TypePart} (pairs : left.pair = right.pair)
    (reaches : left.reach = right.reach) (inside : Findings) :
    comparison.judge left inside = comparison.judge right inside := by
  rw [TypePart.pair, TypePart.pair, Prod.mk.injEq] at pairs
  simp only [judge, factsOf, pairs.1, pairs.2, reaches]

/-- The result for a part when nothing is cut and nothing is remembered. -/
def PlainOn (comparison : TypeComparison) (part : TypePart) (difference : Option TypeDifference) :
    Prop :=
  ∃ inside, comparison.Plain (comparison.partsOf part) inside ∧
    difference = comparison.judge part inside

theorem PlainOn.congr {left right : TypePart} {difference : Option TypeDifference}
    (plain : comparison.PlainOn left difference) (pairs : left.pair = right.pair)
    (reaches : left.reach = right.reach) : comparison.PlainOn right difference := by
  obtain ⟨inside, ofParts, rfl⟩ := plain
  rw [partsOf_congr pairs reaches] at ofParts
  exact ⟨inside, ofParts, judge_congr pairs reaches inside⟩

/-- What is remembered about straight pairs is what comparing them without a memory gives. -/
def Recalls (comparison : TypeComparison) (memory : Memory) : Prop :=
  ∀ part : TypePart, comparison.Names part.pair → comparison.Straight part.pair → ∀ known,
    memory.get? (comparison.key part) = some known → comparison.PlainOn part known

/-- Every pair on a trail leads on to a pair. -/
def LeadsTo (comparison : TypeComparison) (trail : Trail comparison.pairs) (pair : Nat × Nat) : Prop :=
  ∀ entered, comparison.Names entered → comparison.numberOf entered ∈ trail.nodes →
    TransGen comparison.Steps entered pair

/-- The pairs on a trail and the one that is entered lead on to the parts of that one. -/
theorem LeadsTo.enter {trail : Trail comparison.pairs} {part : TypePart}
    (leads : comparison.LeadsTo trail part.pair) (named : comparison.Names part.pair)
    (fresh : comparison.number part ∉ trail.nodes) {child : Nat × Nat}
    (step : comparison.Steps part.pair child) :
    comparison.LeadsTo (trail.enter _ fresh (number_lt named)) child := by
  intro entered enteredNamed member
  rcases List.mem_cons.mp member with last | before
  · have same : entered = part.pair := numberOf_inj enteredNamed named last
    rw [same]
    exact .single step
  · exact (leads entered enteredNamed before).tail step

/-- Remembering the result for a pair that leads back to itself does not matter, and otherwise it is the
plain one. -/
theorem Recalls.insert {part : TypePart} {difference : Option TypeDifference}
    (recalls : comparison.Recalls memory) (named : comparison.Names part.pair)
    (plain : comparison.Straight part.pair → comparison.PlainOn part difference) :
    comparison.Recalls (memory.insert (comparison.key part) difference) := by
  intro other otherNamed straight known found
  rw [Std.TreeMap.get?_eq_getElem?, Std.TreeMap.getElem?_insert] at found
  by_cases same : Ord.compare (comparison.key part) (comparison.key other) = .eq
  · rw [if_pos same, Option.some_inj] at found
    obtain ⟨pairs, reaches⟩ := key_inj named otherNamed (Std.LawfulEqOrd.eq_of_compare same)
    rw [← found]
    rw [← pairs] at straight
    exact (plain straight).congr pairs reaches
  · rw [if_neg same] at found
    exact recalls other otherNamed straight known found

/-- Runs that start from plain memories leave plain memories, and straight pairs get their plain
results, uncut.

Proof: by induction over runs. The pairs on the trail lead on to every part that is compared, so a cut
at a pair shows that the pair leads back to itself. -/
theorem straight_run (comparison : TypeComparison) :
    (∀ trail part memory, comparison.Recalls memory → comparison.LeadsTo trail part.pair →
      comparison.Recalls (comparison.compareOn trail part memory).2 ∧
        (comparison.Straight part.pair →
          (comparison.compareOn trail part memory).1.cut = none ∧
            comparison.PlainOn part (comparison.compareOn trail part memory).1.difference)) ∧
    ∀ trail parts memory, comparison.Recalls memory →
      (∀ part ∈ parts, comparison.LeadsTo trail part.pair) →
      comparison.Recalls (comparison.compareEach trail parts memory).2.2 ∧
        ((∀ part ∈ parts, comparison.Straight part.pair) →
          (comparison.compareEach trail parts memory).2.1 = none ∧
            comparison.Plain parts (comparison.compareEach trail parts memory).1) := by
  apply run_induction comparison
    (fun trail part memory outcome after => comparison.Recalls memory →
      comparison.LeadsTo trail part.pair → comparison.Recalls after ∧ (comparison.Straight part.pair →
        outcome.cut = none ∧ comparison.PlainOn part outcome.difference))
    (fun trail parts memory findings cut after => comparison.Recalls memory →
      (∀ part ∈ parts, comparison.LeadsTo trail part.pair) → comparison.Recalls after ∧
        ((∀ part ∈ parts, comparison.Straight part.pair) →
          cut = none ∧ comparison.Plain parts findings))
  case unnamed =>
    intro trail part memory unnamed recalls _
    refine ⟨recalls, fun _ => ⟨rfl, .empty, ?_, rfl⟩⟩
    rw [partsOf_of_not_names unnamed]
    exact .nil
  case known =>
    intro trail part memory difference named found recalls _
    exact ⟨recalls, fun straight => ⟨rfl, recalls part named straight difference found⟩⟩
  case entered =>
    intro trail part memory named _ entered recalls leads
    exact ⟨recalls, fun straight => absurd (leads part.pair named entered) (straight _ .refl)⟩
  case settled =>
    intro trail part memory findings cut after named fresh _ inductionHypothesis _ recalls leads
    obtain ⟨recallsAfter, plain⟩ := inductionHypothesis recalls fun inner member =>
      leads.enter named fresh (steps_of_mem_partsOf member)
    have plainOn (straight : comparison.Straight part.pair) :
        comparison.PlainOn part (comparison.judge part findings) :=
      ⟨findings, (plain fun inner member => straight.step (steps_of_mem_partsOf member)).2, rfl⟩
    exact ⟨recallsAfter.insert named plainOn, fun straight => ⟨rfl, plainOn straight⟩⟩
  case pending =>
    intro trail part memory findings cut after depth named fresh _ inductionHypothesis open_ recalls
      leads
    obtain ⟨recallsAfter, plain⟩ := inductionHypothesis recalls fun inner member =>
      leads.enter named fresh (steps_of_mem_partsOf member)
    refine ⟨recallsAfter, fun straight => ?_⟩
    obtain ⟨uncut, _⟩ := plain fun inner member => straight.step (steps_of_mem_partsOf member)
    rw [uncut] at open_
    contradiction
  case nil =>
    intro trail memory recalls _
    exact ⟨recalls, fun _ => ⟨rfl, .nil⟩⟩
  case cons =>
    intro trail part rest memory outcome between findings cut after ofPart ofRest recalls leads
    obtain ⟨recallsBetween, plainPart⟩ := ofPart recalls (leads part List.mem_cons_self)
    obtain ⟨recallsAfter, plainRest⟩ := ofRest recallsBetween fun inner member =>
      leads inner (List.mem_cons_of_mem _ member)
    refine ⟨recallsAfter, fun straight => ?_⟩
    obtain ⟨partUncut, inside, plainInside, judged⟩ := plainPart (straight part List.mem_cons_self)
    obtain ⟨restUncut, plainBeside⟩ := plainRest fun inner member =>
      straight inner (List.mem_cons_of_mem _ member)
    rw [partUncut, restUncut, judged]
    exact ⟨rfl, .cons plainInside plainBeside⟩

/-- The plain result of comparing two straight types, whatever was compared before. -/
theorem Straight.compare {pair : Nat × Nat} (straight : comparison.Straight pair)
    (calls : List (Nat × Nat × Reach)) (reach : Reach) :
    comparison.PlainOn ⟨"", pair.1, pair.2, reach⟩
      (comparison.compare pair.1 pair.2 reach (comparison.memoryAfter calls)).1 := by
  have apart (part : TypePart) : comparison.LeadsTo Trail.start part.pair := by
    intro entered _ impossible
    contradiction
  have recalls : comparison.Recalls (comparison.memoryAfter calls) := by
    refine memoryAfter_induction ?_ ?_ calls
    · intro part _ _ known found
      rw [get?_empty] at found
      contradiction
    · intro memory recalls old new reach
      exact (comparison.straight_run.1 Trail.start ⟨"", old, new, reach⟩ memory recalls (apart _)).1
  exact ((comparison.straight_run.1 Trail.start ⟨"", pair.1, pair.2, reach⟩ _ recalls
    (apart _)).2 straight).2

/-- Comparisons without circles are steady. -/
theorem steady_of_straight {pair : Nat × Nat} (straight : comparison.Straight pair) :
    comparison.Steady pair := by
  obtain ⟨inside, plain, _⟩ := straight.compare [] .direct
  refine ⟨(comparison.judge ⟨"", pair.1, pair.2, .direct⟩ inside).any TypeDifference.isReportable,
    fun calls => ?_⟩
  obtain ⟨others, plainOthers, judged⟩ := straight.compare calls .direct
  rw [judged, plain.unique plainOthers]

end TypeComparison

end Abiscope
