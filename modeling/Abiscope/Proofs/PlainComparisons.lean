import Abiscope.Proofs.MatchingTypes

/-!
# Comparing by plain recursion

Where no circles are met, types can be compared by plain recursion: the parts of a pair first, then the
pair by what was found about them. The recursion ends, since a pair that leads to no circles stands on
top of a finite tree of pairs. What is remembered and what is cut by the comparison makes no difference
then, not even after comparisons that did meet circles.
-/

namespace Abiscope

namespace TypeComparison

variable {comparison : TypeComparison} {pair : Nat × Nat}

/-- Parts that are compared without cuts have finitely many pairs behind them. -/
theorem Plain.acc {parts : List TypePart} {findings : Findings}
    (plain : comparison.Plain parts findings) :
    ∀ part ∈ parts, Acc (fun child pair => comparison.Steps pair child) part.pair := by
  induction plain with
  | nil => exact fun _ impossible => by contradiction
  | @cons part rest inside beside _ _ ofPart ofRest =>
    intro other member
    rcases List.mem_cons.mp member with rfl | later
    · refine ⟨_, fun child step => ?_⟩
      obtain ⟨inner, isPart, rfl⟩ := (steps_iff_mem_partsOf _).mp step
      exact ofPart inner isPart
    · exact ofRest other later

/-- A straight pair has finitely many pairs behind it. -/
theorem Straight.acc (straight : comparison.Straight pair) :
    Acc (fun child pair => comparison.Steps pair child) pair := by
  obtain ⟨inside, plain, _⟩ := straight.compare [] .direct
  refine ⟨_, fun child step => ?_⟩
  obtain ⟨inner, isPart, rfl⟩ :=
    (steps_iff_mem_partsOf ⟨"", pair.1, pair.2, .direct⟩).mp step
  exact plain.acc inner isPart

/-- A part of a straight pair is straight. -/
theorem Straight.part {part inner : TypePart} (straight : comparison.Straight part.pair)
    (isPart : inner ∈ comparison.partsOf part) : comparison.Straight inner.pair :=
  straight.step (steps_of_mem_partsOf isPart)

/-- Compares a straight pair of types by plain recursion, with neither a memory nor a trail. -/
def plainly (comparison : TypeComparison) (part : TypePart)
    (straight : comparison.Straight part.pair) : Option TypeDifference :=
  comparison.judge part <| (comparison.partsOf part).attach.foldr
    (fun inner beside =>
      place inner.1.role (plainly comparison inner.1 (straight.part inner.2)) beside)
    .empty
termination_by (⟨part.pair, straight.acc⟩ :
  { pair // Acc (fun child pair => comparison.Steps pair child) pair })
decreasing_by
  exact steps_of_mem_partsOf inner.2

/-- Findings that are placed one for each part, as comparing the part without cuts gives them. -/
theorem plain_foldr (parts : List TypePart) (results : { part // part ∈ parts } → Option TypeDifference)
    (plain : ∀ part, comparison.PlainOn part.1 (results part)) :
    comparison.Plain parts
      (parts.attach.foldr (fun part beside => place part.1.role (results part) beside) .empty) := by
  induction parts with
  | nil => exact .nil
  | cons part rest inductionHypothesis =>
    obtain ⟨inside, ofPart, judged⟩ := plain ⟨part, List.mem_cons_self⟩
    have ofRest := inductionHypothesis
      (fun later => results ⟨later.1, List.mem_cons_of_mem _ later.2⟩)
      (fun later => plain ⟨later.1, List.mem_cons_of_mem _ later.2⟩)
    rw [List.attach_cons, List.foldr_cons, List.foldr_map, judged]
    exact .cons ofPart ofRest

/-- Plain recursion cuts nothing. -/
theorem plainOn_plainly (part : TypePart) (straight : comparison.Straight part.pair) :
    comparison.PlainOn part (comparison.plainly part straight) := by
  induction part, straight using plainly.induct with
  | case1 part straight inductionHypothesis =>
    rw [plainly]
    exact ⟨_, plain_foldr _ _ inductionHypothesis, rfl⟩

/-- There is only one result for a part when nothing is cut. -/
theorem PlainOn.unique {part : TypePart} {left right : Option TypeDifference}
    (ofLeft : comparison.PlainOn part left) (ofRight : comparison.PlainOn part right) :
    left = right := by
  obtain ⟨inside, plain, rfl⟩ := ofLeft
  obtain ⟨others, plainOthers, rfl⟩ := ofRight
  rw [plain.unique plainOthers]

/-- Two types that lead to no circles are compared, after any comparisons, with the result of plain
recursion: the same tree, with the same labels, in the same order. -/
theorem compare_eq_plainly (comparison : TypeComparison) (calls : List (Nat × Nat × Reach))
    (old new : Nat) (reach : Reach) (straight : comparison.Straight (old, new)) :
    (comparison.compare old new reach (comparison.memoryAfter calls)).1 =
      comparison.plainly ⟨"", old, new, reach⟩ straight :=
  PlainOn.unique (straight.compare calls reach) (plainOn_plainly _ straight)

/-- A pair leads to types that the old type refers to. -/
theorem fst_mem_references_of_steps {child : Nat × Nat} (step : comparison.Steps pair child) :
    child.1 ∈ comparison.first.references pair.1 := by
  rw [Steps] at step
  rw [TypeGraph.references]
  generalize comparison.first.node pair.1 = old, comparison.second.node pair.2 = new at *
  cases old <;> cases new <;>
    simp only [TypePart.ofNodes, List.map_cons, List.map_nil, List.mem_singleton,
      List.not_mem_nil] at step
  case record.record old new =>
    obtain ⟨_, member, inside, counterpart, _, rfl⟩ := (mem_ofRecords_iff _ _ _).mp step
    exact List.mem_map_of_mem inside
  case function.function old new =>
    rcases (mem_ofFunctions_iff _ _ _).mp step with rfl | parameters
    · exact List.mem_cons_self
    · exact List.mem_cons_of_mem _ (List.of_mem_zip parameters).1
  all_goals
    subst step
    exact List.mem_singleton_self _

/-- Types that refer to earlier ones only lead to no circles. -/
theorem straight_of_earlier {bound : Nat}
    (earlier : ∀ id < bound, ∀ inner ∈ comparison.first.references id, inner < id)
    (inside : pair.1 < bound) : comparison.Straight pair := by
  have lower {other child : Nat × Nat} (below : other.1 < bound)
      (path : Relation.TransGen comparison.Steps other child) : child.1 < other.1 := by
    induction path with
    | single step => exact earlier _ below _ (fst_mem_references_of_steps step)
    | tail _ step inductionHypothesis =>
      have descends := earlier _ (Nat.lt_trans inductionHypothesis below) _
        (fst_mem_references_of_steps step)
      exact Nat.lt_trans descends inductionHypothesis
  intro other path circle
  have below : other.1 < bound := by
    rcases Relation.reflTransGen_iff_eq_or_transGen.mp path with rfl | longer
    · exact inside
    · exact Nat.lt_trans (lower inside longer) inside
  exact Nat.lt_irrefl _ (lower below circle)

/-- A line between two points, and a list that is linked by pointers. -/
def lineAndNode (size : UInt64) : TypeGraph where
  nodes := #[.void, .builtin "long" size,
    .record { kind := .structRecord, name := "point", size := size, members := [⟨"x", 1, 0⟩] },
    .pointer 2,
    .record { kind := .structRecord, name := "line", size := 128,
              members := [⟨"from", 3, 0⟩, ⟨"to", 3, 64⟩] },
    .record { kind := .structRecord, name := "node", size := 64 + size,
              members := [⟨"next", 6, 0⟩, ⟨"value", 1, 64⟩] },
    .pointer 5]

/-- The values that both are made of grow. -/
def widenedValues : TypeComparison := ⟨lineAndNode 32, lineAndNode 64, fun facts => some facts.name⟩

/-- The types before the list refer to earlier ones. -/
theorem straight_line : widenedValues.Straight (4, 4) :=
  straight_of_earlier (by decide : ∀ id < 5, ∀ inner ∈ widenedValues.first.references id, inner < id)
    (by decide)

/-- The list has been compared before, so that the values are remembered, and the line shares its
points. -/
theorem compare_eq_plainly_line :
    widenedValues.Straight (4, 4) ∧
      (widenedValues.compare 4 4 .direct (widenedValues.memoryAfter [(6, 6, .direct)])).1 =
        widenedValues.plainly ⟨"", 4, 4, .direct⟩ straight_line :=
  ⟨straight_line, compare_eq_plainly widenedValues [(6, 6, .direct)] 4 4 .direct straight_line⟩

end TypeComparison

end Abiscope
