import Abiscope.Proofs.ComparisonRuns

/-!
# What a cut run finds

A run that cuts circles finds only part of a difference below each cut, and with a memory, what it finds
for a pair may stem from another place. Still, some questions about the result have an answer that
depends on the pair alone. Such a question is answered for a pair from the changes of the pair itself
and from the answers for its parts, unless the pair is hidden: the answer is yes exactly if a path of
pairs that are not hidden leads to a pair with changes.

A circle adds nothing to this: a path that comes back to a pair can be cut short there. So what is
missed below a cut is found by the run that is still busy with the pair at which it was cut, and a
result that no open cut lies under is the full answer and may be remembered.
-/

namespace Abiscope

namespace TypePart

/-- How a pair of types is reached is immaterial for the pairs of its parts. -/
theorem map_pair_ofNodes (old new : TypeNode) (reach : Reach) :
    (ofNodes old new reach).map pair = (ofNodes old new .direct).map pair := by
  cases old <;> cases new <;> simp only [ofNodes, List.map_nil, List.map_cons, pair]
  case record old new =>
    cases complete : old.bothComplete new with
    | false => simp only [ofRecords, complete, Bool.false_eq_true, if_false]
    | true =>
      simp only [ofRecords, complete, if_true, List.map_filterMap, Option.map_map, Function.comp_def,
        pair]
  case function old new =>
    simp only [ofFunctions, List.map_cons, List.map_map, Function.comp_def, pair]

end TypePart

/-- Whether one of some findings, without those inside others, is as asked. -/
def Findings.any (holds : TypeDifference → Bool) : Findings → Bool
  | .empty => false
  | .cons _ finding inside beside => holds ⟨finding, inside⟩ || beside.any holds

namespace TypeComparison

theorem any_place (holds : TypeDifference → Bool) (role : String)
    (difference : Option TypeDifference) (beside : Findings) :
    (place role difference beside).any holds = (difference.any holds || beside.any holds) := by
  cases difference with
  | none => rfl
  | some difference => rfl

/-- The changes of a pair of types itself. -/
def changesAt (comparison : TypeComparison) (pair : Nat × Nat) : List TypeChange :=
  comparison.first.localChanges comparison.second pair.1 pair.2

/-- A pair of types leads to the pairs of its parts. -/
def Steps (comparison : TypeComparison) (pair child : Nat × Nat) : Prop :=
  child ∈ (TypePart.ofNodes (comparison.first.node pair.1) (comparison.second.node pair.2)
    .direct).map TypePart.pair

/-- From a pair, pairs that all pass lead to a goal. -/
inductive Reaches (comparison : TypeComparison) (passes goal : Nat × Nat → Prop) : Nat × Nat → Prop where
  | here {pair : Nat × Nat} (pass : passes pair) (isGoal : goal pair) : Reaches comparison passes goal pair
  | behind {pair child : Nat × Nat} (pass : passes pair) (step : comparison.Steps pair child)
    (reaches : Reaches comparison passes goal child) : Reaches comparison passes goal pair

/-- From a pair, pairs that all pass lead to one with changes. -/
inductive Exposes (comparison : TypeComparison) (passes : Nat × Nat → Prop) : Nat × Nat → Prop where
  | here {pair : Nat × Nat} (pass : passes pair) (changed : comparison.changesAt pair ≠ []) :
    Exposes comparison passes pair
  | behind {pair child : Nat × Nat} (pass : passes pair) (step : comparison.Steps pair child)
    (exposed : Exposes comparison passes child) : Exposes comparison passes pair

variable {comparison : TypeComparison} {passes others goal : Nat × Nat → Prop} {pair child : Nat × Nat}

/-- The parts of a part that are compared are those that its pair leads to. -/
theorem steps_iff_mem_partsOf (part : TypePart) :
    comparison.Steps part.pair child ↔ ∃ inner ∈ comparison.partsOf part, inner.pair = child := by
  rw [Steps, TypePart.pair, ← TypePart.map_pair_ofNodes _ _ part.reach, List.mem_map]
  rfl

/-- A pair leads to each of its parts. -/
theorem steps_of_mem_partsOf {above part : TypePart} (isPart : part ∈ comparison.partsOf above) :
    comparison.Steps above.pair part.pair :=
  (steps_iff_mem_partsOf above).mpr ⟨part, isPart, rfl⟩

/-- A pair of which one number names no type has no parts. -/
theorem partsOf_of_not_names {part : TypePart} (unnamed : ¬comparison.Names part.pair) :
    comparison.partsOf part = [] := by
  by_cases oldNamed : part.old < comparison.first.size
  · have outside : comparison.second.size ≤ part.new :=
      Nat.le_of_not_lt fun newNamed => unnamed ⟨oldNamed, newNamed⟩
    rw [partsOf, TypeGraph.node_of_size_le outside]
    cases comparison.first.node part.old <;> rfl
  · rw [partsOf, TypeGraph.node_of_size_le (Nat.le_of_not_lt oldNamed)]
    cases comparison.second.node part.new <;> rfl

namespace Reaches

/-- Where a goal is reached, it is when more pairs pass. -/
theorem mono (weaker : ∀ pair, passes pair → others pair)
    (reaches : comparison.Reaches passes goal pair) : comparison.Reaches others goal pair := by
  induction reaches with
  | here pass isGoal => exact here (weaker _ pass) isGoal
  | behind pass step _ inductionHypothesis => exact behind (weaker _ pass) step inductionHypothesis

/-- The first pair of a path passes. -/
theorem passes_of (reaches : comparison.Reaches passes goal pair) : passes pair := by
  cases reaches with
  | here pass _ => exact pass
  | behind pass _ _ => exact pass

/-- A path either avoids a pair, or its rest behind the last visit to the pair avoids it. -/
theorem avoid_or (other : Nat × Nat) (reaches : comparison.Reaches passes goal pair) :
    comparison.Reaches (fun pair => passes pair ∧ pair ≠ other) goal pair ∨
      passes other ∧ (goal other ∨ ∃ child, comparison.Steps other child ∧
        comparison.Reaches (fun pair => passes pair ∧ pair ≠ other) goal child) := by
  induction reaches with
  | @here pair pass isGoal =>
    by_cases same : pair = other
    · subst same
      exact Or.inr ⟨pass, Or.inl isGoal⟩
    · exact Or.inl (here ⟨pass, same⟩ isGoal)
  | @behind pair child pass step _ inductionHypothesis =>
    rcases inductionHypothesis with avoided | revisited
    · by_cases same : pair = other
      · subst same
        exact Or.inr ⟨pass, Or.inr ⟨child, step, avoided⟩⟩
      · exact Or.inl (behind ⟨pass, same⟩ step avoided)
    · exact Or.inr revisited

/-- A path need not come back to the pair that it starts from. -/
theorem avoid (reaches : comparison.Reaches passes goal pair) :
    passes pair ∧ (goal pair ∨ ∃ child, comparison.Steps pair child ∧
      comparison.Reaches (fun other => passes other ∧ other ≠ pair) goal child) := by
  rcases reaches.avoid_or pair with impossible | rest
  · exact absurd rfl impossible.passes_of.2
  · exact rest

end Reaches

/-- Changes are exposed where the goal is a pair with changes. -/
theorem exposes_iff_reaches : comparison.Exposes passes pair ↔
    comparison.Reaches passes (fun other => comparison.changesAt other ≠ []) pair := by
  constructor
  · intro exposed
    induction exposed with
    | here pass changed => exact .here pass changed
    | behind pass step _ inductionHypothesis => exact .behind pass step inductionHypothesis
  · intro reaches
    induction reaches with
    | here pass changed => exact .here pass changed
    | behind pass step _ inductionHypothesis => exact .behind pass step inductionHypothesis

namespace Exposes

/-- What a path shows, it shows when more pairs pass. -/
theorem mono (weaker : ∀ pair, passes pair → others pair)
    (exposed : comparison.Exposes passes pair) : comparison.Exposes others pair :=
  exposes_iff_reaches.mpr ((exposes_iff_reaches.mp exposed).mono weaker)

/-- The first pair of a path passes. -/
theorem passes_of (exposed : comparison.Exposes passes pair) : passes pair :=
  (exposes_iff_reaches.mp exposed).passes_of

/-- A path need not come back to the pair that it starts from. -/
theorem avoid (exposed : comparison.Exposes passes pair) :
    passes pair ∧ (comparison.changesAt pair ≠ [] ∨ ∃ child, comparison.Steps pair child ∧
      comparison.Exposes (fun other => passes other ∧ other ≠ pair) child) := by
  simp only [exposes_iff_reaches] at exposed ⊢
  exact exposed.avoid

end Exposes

/-! ## Open cuts -/

/-- A pair on a trail at which, or below which, a run has been cut. -/
def IsOpen (comparison : TypeComparison) (trail : Trail comparison.pairs) (cut : Option Nat)
    (pair : Nat × Nat) : Prop :=
  comparison.Names pair ∧ comparison.numberOf pair ∈ trail.nodes ∧
    ∃ depth ∈ cut, depth ≤ depthOf (comparison.numberOf pair) trail.nodes

/-- A node on a trail lies less deep than the trail is long. -/
theorem depthOf_lt {node : Nat} {nodes : List Nat} (entered : node ∈ nodes) :
    depthOf node nodes < nodes.length := by
  induction nodes with
  | nil => contradiction
  | cons last before inductionHypothesis =>
    rw [depthOf]
    split
    · exact Nat.lt_succ_self _
    · rename_i other
      rcases List.mem_cons.mp entered with same | earlier
      · exact absurd same.symm other
      · exact Nat.lt_succ_of_lt (inductionHypothesis earlier)

variable {trail : Trail comparison.pairs} {cut left right : Option Nat}

/-- Without a cut nothing is open. -/
theorem not_isOpen_none : ¬comparison.IsOpen trail none pair := by
  rintro ⟨_, _, _, impossible, _⟩
  contradiction

/-- The outermost of two cuts leaves open what either of them does. -/
theorem IsOpen.outer
    (opened : comparison.IsOpen trail left pair ∨ comparison.IsOpen trail right pair) :
    comparison.IsOpen trail (outer left right) pair := by
  rcases opened with ⟨named, entered, depth, isCut, above⟩ | ⟨named, entered, depth, isCut, above⟩
  · refine ⟨named, entered, ?_⟩
    rw [Option.mem_def] at isCut
    subst isCut
    cases right with
    | none => exact ⟨depth, rfl, above⟩
    | some other => exact ⟨min depth other, rfl, Nat.le_trans (Nat.min_le_left _ _) above⟩
  · refine ⟨named, entered, ?_⟩
    rw [Option.mem_def] at isCut
    subst isCut
    cases left with
    | none => exact ⟨depth, rfl, above⟩
    | some other => exact ⟨min other depth, rfl, Nat.le_trans (Nat.min_le_right _ _) above⟩

/-- What is open after a pair was entered is that pair, or was open on the trail before. -/
theorem IsOpen.eq_or_of_enter {part : TypePart} (named : comparison.Names part.pair)
    (fresh : comparison.number part ∉ trail.nodes)
    (opened : comparison.IsOpen (trail.enter _ fresh (number_lt named)) cut pair) :
    pair = part.pair ∨ comparison.IsOpen trail (cut.filter (· < trail.nodes.length)) pair := by
  obtain ⟨otherNamed, entered, depth, isCut, above⟩ := opened
  simp only [Trail.enter, List.mem_cons, depthOf] at entered above
  by_cases same : comparison.number part = comparison.numberOf pair
  · exact Or.inl (numberOf_inj named otherNamed same).symm
  · have before : comparison.numberOf pair ∈ trail.nodes := by
      rcases entered with equal | before
      · exact absurd equal.symm same
      · exact before
    rw [if_neg same] at above
    have shallow : depth < trail.nodes.length := Nat.lt_of_le_of_lt above (depthOf_lt before)
    refine Or.inr ⟨otherNamed, before, depth, ?_, above⟩
    rw [Option.mem_def] at isCut ⊢
    simp [isCut, shallow]

/-! ## Questions about differences -/

/-- A question about differences whose answer is passed on from part to part: it is answered for a pair
with yes exactly if the pair passes, and itself has changes or a part of it is answered with yes. -/
structure Question (comparison : TypeComparison) where
  holds : TypeDifference → Bool
  passes : Nat × Nat → Prop
  answered (part : TypePart) (inside : Findings)
    (leaf : comparison.partsOf part = [] → inside = .empty) :
    (comparison.judge part inside).any holds = true ↔
      passes part.pair ∧ (comparison.changesAt part.pair ≠ [] ∨ inside.any holds = true)

namespace Question

variable (question : comparison.Question)

/-- Every remembered result answers the question as the pair alone does. -/
def Settles (memory : Memory) : Prop :=
  ∀ part : TypePart, comparison.Names part.pair → ∀ known,
    memory.get? (comparison.key part) = some known →
      (known.any question.holds = true ↔ comparison.Exposes question.passes part.pair)

/-- The pairs that pass and at which no cut is open. -/
def Beside (trail : Trail comparison.pairs) (cut : Option Nat) (pair : Nat × Nat) : Prop :=
  question.passes pair ∧ ¬comparison.IsOpen trail cut pair

/-- An answer lies between what is exposed on paths that avoid open cuts and what is exposed at all. -/
structure Bounds (trail : Trail comparison.pairs) (cut : Option Nat) (pairs : List (Nat × Nat))
    (answer : Bool) : Prop where
  sound : answer = true → ∃ pair ∈ pairs, comparison.Exposes question.passes pair
  complete : ∀ pair ∈ pairs, comparison.Exposes (question.Beside trail cut) pair → answer = true

variable {question}

/-- Where no cut is open, the answer is exact. -/
theorem Bounds.exact {answer : Bool} (bounds : question.Bounds trail none [pair] answer) :
    answer = true ↔ comparison.Exposes question.passes pair := by
  constructor
  · intro yes
    obtain ⟨only, member, exposed⟩ := bounds.sound yes
    rw [List.mem_singleton.mp member] at exposed
    exact exposed
  · intro exposed
    exact bounds.complete pair (List.mem_singleton_self pair)
      (exposed.mono fun _ pass => ⟨pass, not_isOpen_none⟩)

/-- Nothing is missed by a result that is exact, whatever is open. -/
theorem Bounds.of_exact {answer : Bool}
    (exact_ : answer = true ↔ comparison.Exposes question.passes pair) :
    question.Bounds trail cut [pair] answer where
  sound yes := ⟨pair, List.mem_singleton_self pair, exact_.mp yes⟩
  complete other member exposed := by
    rw [List.mem_singleton.mp member] at exposed
    exact exact_.mpr (exposed.mono fun _ beside => beside.1)

/-- The answers for two lists of parts together. -/
theorem Bounds.append {leftPairs rightPairs : List (Nat × Nat)} {leftAnswer rightAnswer : Bool}
    (ofLeft : question.Bounds trail left leftPairs leftAnswer)
    (ofRight : question.Bounds trail right rightPairs rightAnswer) :
    question.Bounds trail (outer left right) (leftPairs ++ rightPairs)
      (leftAnswer || rightAnswer) where
  sound yes := by
    rcases Bool.or_eq_true_iff.mp yes with yes | yes
    · obtain ⟨pair, member, exposed⟩ := ofLeft.sound yes
      exact ⟨pair, List.mem_append_left _ member, exposed⟩
    · obtain ⟨pair, member, exposed⟩ := ofRight.sound yes
      exact ⟨pair, List.mem_append_right _ member, exposed⟩
  complete pair member exposed := by
    rw [Bool.or_eq_true_iff]
    rcases List.mem_append.mp member with member | member
    · exact Or.inl (ofLeft.complete pair member (exposed.mono fun _ beside =>
        ⟨beside.1, fun opened => beside.2 (IsOpen.outer (Or.inl opened))⟩))
    · exact Or.inr (ofRight.complete pair member (exposed.mono fun _ beside =>
        ⟨beside.1, fun opened => beside.2 (IsOpen.outer (Or.inr opened))⟩))

/-- A pair that is judged by itself has no parts that could have been missed. -/
theorem Bounds.leaf {part : TypePart} (unnamed : ¬comparison.Names part.pair) :
    question.Bounds trail none [part.pair] ((comparison.judge part .empty).any question.holds) := by
  have parts : comparison.partsOf part = [] := partsOf_of_not_names unnamed
  refine Bounds.of_exact ?_
  rw [question.answered part .empty fun _ => rfl]
  constructor
  · rintro ⟨pass, changed | impossible⟩
    · exact .here pass changed
    · contradiction
  · intro exposed
    cases exposed with
    | here pass changed => exact ⟨pass, Or.inl changed⟩
    | behind pass step _ =>
      obtain ⟨inner, member, _⟩ := (steps_iff_mem_partsOf part).mp step
      rw [parts] at member
      contradiction

/-- The answer for a pair that was entered, from the answer for its parts.

Proof: what is exposed beside the cuts that are open above is exposed on a path that does not come back
to the pair, so its rest behind the first step avoids whatever is open below. -/
theorem Bounds.judge {part : TypePart} {findings : Findings} (named : comparison.Names part.pair)
    (fresh : comparison.number part ∉ trail.nodes)
    (leaf : comparison.partsOf part = [] → findings = .empty)
    (inner : question.Bounds (trail.enter _ fresh (number_lt named)) cut
      ((comparison.partsOf part).map TypePart.pair) (findings.any question.holds)) :
    question.Bounds trail (cut.filter (· < trail.nodes.length)) [part.pair]
      ((comparison.judge part findings).any question.holds) where
  sound yes := by
    refine ⟨part.pair, List.mem_singleton_self _, ?_⟩
    obtain ⟨pass, changed | below⟩ := (question.answered part findings leaf).mp yes
    · exact .here pass changed
    · obtain ⟨child, member, exposed⟩ := inner.sound below
      exact .behind pass ((steps_iff_mem_partsOf part).mpr (List.mem_map.mp member)) exposed
  complete pair member exposed := by
    rw [List.mem_singleton.mp member] at exposed
    obtain ⟨⟨pass, _⟩, found⟩ := exposed.avoid
    refine (question.answered part findings leaf).mpr ⟨pass, ?_⟩
    rcases found with changed | ⟨child, step, rest⟩
    · exact Or.inl changed
    · have isPart : child ∈ (comparison.partsOf part).map TypePart.pair :=
        List.mem_map.mpr ((steps_iff_mem_partsOf part).mp step)
      refine Or.inr (inner.complete child isPart (rest.mono ?_))
      rintro other ⟨⟨otherPass, shut⟩, differs⟩
      refine ⟨otherPass, fun opened => ?_⟩
      rcases opened.eq_or_of_enter named fresh with same | before
      · exact differs same
      · exact shut before

/-- Remembering an exact answer keeps the memory exact. -/
theorem Settles.insert {memory : Memory} {part : TypePart} {difference : Option TypeDifference}
    (settles : question.Settles memory) (named : comparison.Names part.pair)
    (exact_ : difference.any question.holds = true ↔ comparison.Exposes question.passes part.pair) :
    question.Settles (memory.insert (comparison.key part) difference) := by
  intro other otherNamed known found
  rw [Std.TreeMap.get?_eq_getElem?, Std.TreeMap.getElem?_insert] at found
  by_cases same : Ord.compare (comparison.key part) (comparison.key other) = .eq
  · rw [if_pos same, Option.some_inj] at found
    have pairs := (key_inj named otherNamed (Std.LawfulEqOrd.eq_of_compare same)).1
    rw [← found, ← pairs]
    exact exact_
  · rw [if_neg same] at found
    exact settles other otherNamed known found

/-- The answer to a question that a run leaves, from any memory whose answers are exact.

Proof: by induction over runs. A remembered answer is exact. Where a pair is cut, nothing is exposed
beside the cut. The cuts under a list of parts are those under each. An entered pair is answered from
its parts, and if no open cut lies above it, exactly. -/
theorem run (question : comparison.Question) :
    (∀ trail part memory, question.Settles memory →
      question.Settles (comparison.compareOn trail part memory).2 ∧
        question.Bounds trail (comparison.compareOn trail part memory).1.cut [part.pair]
          ((comparison.compareOn trail part memory).1.difference.any question.holds)) ∧
    ∀ trail parts memory, question.Settles memory →
      question.Settles (comparison.compareEach trail parts memory).2.2 ∧
        question.Bounds trail (comparison.compareEach trail parts memory).2.1
          (parts.map TypePart.pair)
          ((comparison.compareEach trail parts memory).1.any question.holds) ∧
        (parts = [] → (comparison.compareEach trail parts memory).1 = .empty) := by
  apply run_induction comparison
    (fun trail part memory outcome after => question.Settles memory →
      question.Settles after ∧
        question.Bounds trail outcome.cut [part.pair] (outcome.difference.any question.holds))
    (fun trail parts memory findings cut after => question.Settles memory →
      question.Settles after ∧
        question.Bounds trail cut (parts.map TypePart.pair) (findings.any question.holds) ∧
        (parts = [] → findings = .empty))
  case unnamed =>
    intro trail part memory unnamed settles
    exact ⟨settles, Bounds.leaf unnamed⟩
  case known =>
    intro trail part memory difference named found settles
    exact ⟨settles, Bounds.of_exact (settles part named difference found)⟩
  case entered =>
    intro trail part memory named _ entered settles
    refine ⟨settles, fun impossible => by contradiction, ?_⟩
    intro pair member exposed
    have opened : comparison.IsOpen trail (some (depthOf (comparison.number part) trail.nodes))
        part.pair := ⟨named, entered, _, rfl, Nat.le_refl _⟩
    rw [List.mem_singleton.mp member] at exposed
    exact absurd opened exposed.passes_of.2
  case settled =>
    intro trail part memory findings cut after named fresh _ inductionHypothesis shut settles
    obtain ⟨settlesAfter, inner, leaf⟩ := inductionHypothesis settles
    have bounds := Bounds.judge named fresh (fun parts => leaf parts) inner
    rw [shut] at bounds
    exact ⟨settlesAfter.insert named bounds.exact, bounds⟩
  case pending =>
    intro trail part memory findings cut after depth named fresh _ inductionHypothesis open_ settles
    obtain ⟨settlesAfter, inner, leaf⟩ := inductionHypothesis settles
    have bounds := Bounds.judge named fresh (fun parts => leaf parts) inner
    rw [open_] at bounds
    exact ⟨settlesAfter, bounds⟩
  case nil =>
    intro trail memory settles
    refine ⟨settles, ⟨fun impossible => by contradiction, ?_⟩, fun _ => rfl⟩
    intro pair member
    contradiction
  case cons =>
    intro trail part rest memory outcome between findings cut after ofPart ofRest settles
    obtain ⟨settlesBetween, bounds⟩ := ofPart settles
    obtain ⟨settlesAfter, restBounds, _⟩ := ofRest settlesBetween
    refine ⟨settlesAfter, ?_, fun impossible => by contradiction⟩
    rw [any_place]
    exact bounds.append restBounds

end Question

end TypeComparison

end Abiscope
