import Abiscope.Proofs.CircularPairs
import Abiscope.Proofs.MatchingTypes

/-!
# Pairs inside themselves

A pair that is being compared is not entered again, so that a difference is not reported inside itself.
A remembered result escapes this: it was found when the pair was not being compared, and may have the
pair inside. It is taken as it is, and then the pair is reported again.

So no pair is ever reported inside itself, whatever is compared in whatever order, exactly if nothing
has changed about pairs to which comparisons can come back on another way: those that lead to another
pair and back, and pairs of references that stand for themselves, which come back reached otherwise.

Where this fails there is a circle of changed pairs. Compared against its direction, it leaves one of
its pairs remembered with itself inside.
-/

namespace Abiscope

namespace TypeComparison

open Relation (ReflTransGen TransGen)

variable {comparison : TypeComparison} {pair child : Nat × Nat} {memory : Memory} {reach : Reach}

/-! ## Trees on circles without changes -/

/-- After any comparisons, no pair is reported inside itself: on the way down to a finding, no two
findings are about one pair. -/
def NeverInside (comparison : TypeComparison) : Prop :=
  ∀ calls old new reach difference,
    (comparison.compare old new reach (comparison.memoryAfter calls)).1 = some difference →
      ∀ above finding, (above, finding) ∈ difference.located →
        ((above ++ [finding]).map Finding.pair).Nodup

/-- A comparison can come back to a pair on another way: the pair leads to another one and back, or is
one of pointers or references to itself. -/
def Returns (comparison : TypeComparison) (pair : Nat × Nat) : Prop :=
  (∃ other, other ≠ pair ∧ TransGen comparison.Steps pair other ∧
      TransGen comparison.Steps other pair) ∨
    comparison.Steps pair pair ∧ (comparison.first.node pair.1).crossing? ≠ none

/-- What stands below a part is about pairs that it leads to. -/
theorem Below.leads {part : TypePart} {findings : Findings} (below : comparison.Below part findings) :
    ∀ entry ∈ findings.located, ∀ finding ∈ entry.1 ++ [entry.2],
      TransGen comparison.Steps part.pair finding.pair := by
  induction below with
  | empty => exact fun _ impossible => by contradiction
  | @cons above part finding inside beside isPart _ judged ofPart _ ofInside ofBeside =>
    have step := steps_of_mem_partsOf isPart
    have same : finding.pair = part.pair := (judge_eq_some judged).2.1
    intro entry member inner isInner
    rcases List.mem_append.mp member with within | others
    · rcases List.mem_cons.mp within with rfl | deeper
      · rw [List.mem_singleton.mp isInner, same]
        exact .single step
      · obtain ⟨lower, lowerMember, rfl⟩ := List.mem_map.mp deeper
        rcases List.mem_cons.mp isInner with rfl | isLower
        · rw [same]
          exact .single step
        · exact .head step (ofInside lower lowerMember inner isLower)
    · exact ofBeside entry others inner isInner

/-- Something has changed behind a pair that is found about. -/
theorem Below.changed {part : TypePart} {findings : Findings} (below : comparison.Below part findings)
    (reason : comparison.changesAt part.pair ≠ [] ∨ findings ≠ .empty) :
    ¬comparison.Unchanged part.pair := by
  induction below with
  | empty =>
    intro unchanged
    exact reason.elim (fun changed => changed (unchanged _ .refl)) fun impossible => impossible rfl
  | @cons above part finding inside beside isPart _ judged _ _ ofInside _ =>
    intro unchanged
    exact ofInside (judge_eq_some judged).1 (unchanged.step (steps_of_mem_partsOf isPart))

/-- A part that is met below itself is one that comparisons come back to. -/
theorem returns_of_leads {above part : TypePart} (isPart : part ∈ comparison.partsOf above)
    (differs : part.pair = above.pair → part.reach ≠ above.reach)
    (leads : ReflTransGen comparison.Steps part.pair above.pair) : comparison.Returns above.pair := by
  have step := steps_of_mem_partsOf isPart
  by_cases same : part.pair = above.pair
  · rw [same] at step
    refine Or.inr ⟨step, fun uncrossed => differs same ?_⟩
    have uncrossed : (comparison.first.node above.old).crossing? = none := uncrossed
    rw [reach_of_mem_partsOf isPart, uncrossed]
    rfl
  · refine Or.inl ⟨part.pair, same, .single step, ?_⟩
    rcases ReflTransGen.cases_head leads with equal | ⟨next, first, path⟩
    · exact absurd equal same
    · exact .head' first path

/-- Where nothing has changed about pairs that comparisons come back to, a pair does not stand below
itself.

Proof: the way down from the pair to itself would begin with a part of it, and something has changed
behind the pair as it is found about. -/
theorem Below.not_mem {part : TypePart} {findings : Findings}
    (below : comparison.Below part findings)
    (still : ∀ pair, comparison.Returns pair → comparison.Unchanged pair)
    (changed : ¬comparison.Unchanged part.pair) :
    ∀ entry ∈ findings.located, part.pair ∉ (entry.1 ++ [entry.2]).map Finding.pair := by
  induction below with
  | empty => exact fun _ impossible => by contradiction
  | @cons above part finding inside beside isPart differs judged ofPart _ _ ofBeside =>
    have same : finding.pair = part.pair := (judge_eq_some judged).2.1
    intro entry member again
    rcases List.mem_append.mp member with within | others
    · refine changed (still _ (returns_of_leads isPart differs ?_))
      rcases List.mem_cons.mp within with rfl | deeper
      · rw [List.nil_append, List.map_singleton, List.mem_singleton, same] at again
        rw [again]
      · obtain ⟨lower, lowerMember, rfl⟩ := List.mem_map.mp deeper
        rcases List.mem_cons.mp again with top | below
        · rw [top, same]
        · obtain ⟨inner, isInner, equal⟩ := List.mem_map.mp below
          rw [← equal]
          exact (ofPart.leads lower lowerMember inner isInner).to_reflTransGen
    · exact ofBeside changed entry others again

/-- Where nothing has changed about pairs that comparisons come back to, the pairs on the way down to a
finding are different ones if they are below the top. -/
theorem FoundFor.nodup_of_inside {part : TypePart} {difference : TypeDifference}
    (found : comparison.FoundFor part difference)
    (still : ∀ pair, comparison.Returns pair → comparison.Unchanged pair)
    (inside : ∀ entry ∈ difference.inside.located, ((entry.1 ++ [entry.2]).map Finding.pair).Nodup) :
    ∀ entry ∈ difference.located, ((entry.1 ++ [entry.2]).map Finding.pair).Nodup := by
  intro entry member
  rcases List.mem_cons.mp member with rfl | within
  · exact List.nodup_singleton _
  · obtain ⟨lower, lowerMember, rfl⟩ := List.mem_map.mp within
    refine List.nodup_cons.mpr ⟨?_, inside lower lowerMember⟩
    rw [found.finding.1]
    exact found.inside.not_mem still (found.inside.changed (judge_eq_some found.judged).1) lower
      lowerMember

/-- Where nothing has changed about pairs that comparisons come back to, the pairs on the way down to a
finding are different ones. -/
theorem Below.nodup {part : TypePart} {findings : Findings} (below : comparison.Below part findings)
    (still : ∀ pair, comparison.Returns pair → comparison.Unchanged pair) :
    ∀ entry ∈ findings.located, ((entry.1 ++ [entry.2]).map Finding.pair).Nodup := by
  induction below with
  | empty => exact fun _ impossible => by contradiction
  | @cons above part finding inside beside _ _ judged ofPart _ ofInside ofBeside =>
    intro entry member
    have found : comparison.FoundFor part ⟨finding, inside⟩ := ⟨judged, ofPart⟩
    rcases List.mem_append.mp member with within | others
    · exact found.nodup_of_inside still ofInside entry within
    · exact ofBeside entry others

/-- Where nothing has changed about pairs that comparisons come back to, no pair is reported inside
itself. -/
theorem neverInside_of_still (still : ∀ pair, comparison.Returns pair → comparison.Unchanged pair) :
    comparison.NeverInside := by
  intro calls old new reach difference returned above finding member
  have found := foundFor_compare returned
  exact found.nodup_of_inside still (found.inside.nodup still) (above, finding) member

/-! ## Trees on circles with changes -/

/-- A pair below which it is found again is reported inside itself. -/
theorem not_neverInside_of_mem {calls : List (Nat × Nat × Reach)} {difference : TypeDifference}
    (returned : (comparison.compare pair.1 pair.2 reach (comparison.memoryAfter calls)).1 =
      some difference)
    {entry : List Finding × Finding} (member : entry ∈ difference.located) (below : entry.1 ≠ [])
    (again : entry.2.pair = pair) : ¬comparison.NeverInside := by
  intro never
  have distinct := never calls pair.1 pair.2 reach difference returned _ _ member
  rcases List.mem_cons.mp member with rfl | within
  · exact below rfl
  · obtain ⟨lower, _, rfl⟩ := List.mem_map.mp within
    rw [List.cons_append, List.map_cons, List.nodup_cons, (foundFor_compare returned).finding.1,
      List.map_append] at distinct
    exact distinct.1 (List.mem_append_right _ (List.mem_singleton.mpr again.symm))

/-- A pair behind which something has changed exposes it. -/
theorem exposes_of_not_unchanged (changed : ¬comparison.Unchanged pair) :
    comparison.Exposes (fun _ => True) pair := by
  by_contra hidden
  refine changed fun other path => ?_
  by_contra changes
  exact hidden (exposes_true_iff.mpr ⟨other, path, changes⟩)

/-- A pair that exposes changes and leads to another one and back is on a circle of which a pair can be
reported inside itself. -/
theorem not_neverInside_of_circle {other : Nat × Nat} (changed : ¬comparison.Unchanged pair)
    (differs : other ≠ pair) (there : TransGen comparison.Steps pair other)
    (back : TransGen comparison.Steps other pair) : ¬comparison.NeverInside := by
  have exposed := exposes_of_not_unchanged changed
  obtain ⟨before, target, apart, step, path, behind⟩ := exists_link exposed differs there back
  -- The walk goes from the pair before the target against the steps, round to the target.
  obtain ⟨rest, linked, ends, distinct⟩ := exists_nodup_isChain path.swap
  obtain ⟨memory, history, shows_⟩ := exists_shows
    (comparison.isHistory_empty.compare before.1 before.2 .pointer) (shows_of_exposes step behind)
    step.names linked distinct ends
    (get?_compare_of_isChain step.names linked distinct fun _ _ => get?_empty _)
  obtain ⟨calls, rfl⟩ := history
  obtain ⟨difference, remembered, entry, member, below, again⟩ := shows_
  have returned := congrArg Prod.fst (compare_of_known (names_of_path path apart) remembered)
  exact not_neverInside_of_mem returned member below again

/-- A pair of references to itself that has changed can be reported inside itself: it is compared as
reached through a reference, and then directly. -/
theorem not_neverInside_of_loop (changed : ¬comparison.Unchanged pair)
    (step : comparison.Steps pair pair)
    (crossing : (comparison.first.node pair.1).crossing? ≠ none) : ¬comparison.NeverInside := by
  obtain ⟨crossed, isCrossed⟩ := Option.ne_none_iff_exists'.mp crossing
  have named := step.names
  have differs : (comparison.compare pair.1 pair.2 crossed ∅).1 ≠ none :=
    fun same => changed ((compare_eq_none_iff comparison [] pair.1 pair.2 crossed).mp same)
  obtain ⟨found, isFound⟩ := Option.ne_none_iff_exists'.mp differs
  have remembered := get?_compare_self named (get?_empty (comparison.key (.whole pair crossed)))
  have unknown := get?_compare_of_reach_ne named (recallsFound_memoryAfter [])
    (fun _ => get?_empty _) (TypeNode.ne_direct_of_crossing? isCrossed)
  obtain ⟨part, isPart, same⟩ := (steps_iff_mem_partsOf (.whole pair .direct)).mp step
  have reached : part.reach = crossed := by
    rw [reach_of_mem_partsOf isPart,
      show (comparison.first.node (TypePart.whole pair .direct).old).crossing? = _ from isCrossed]
    rfl
  have keys : comparison.key part = comparison.key (.whole pair crossed) := key_congr same reached
  obtain ⟨difference, returned, inside⟩ := exists_compare_of_remembered named unknown isPart
    (same ▸ named) (keys ▸ remembered.trans (congrArg some isFound))
  have about : found.finding.pair = pair := (@foundFor_compare comparison [] _ _ _ _ isFound).finding.1
  exact @not_neverInside_of_mem comparison pair .direct [(pair.1, pair.2, crossed)] difference returned
    _ (inside _ List.mem_cons_self) (List.cons_ne_nil _ _) about

/-- No pair is ever reported inside itself, whatever is compared in whatever order, exactly if nothing
has changed about the pairs to which comparisons can come back on another way. -/
theorem neverInside_iff (comparison : TypeComparison) :
    comparison.NeverInside ↔ ∀ pair, comparison.Returns pair → comparison.Unchanged pair := by
  refine ⟨fun never pair returns => ?_, neverInside_of_still⟩
  by_contra changed
  rcases returns with ⟨other, differs, there, back⟩ | ⟨step, crossing⟩
  · exact not_neverInside_of_circle changed differs there back never
  · exact not_neverInside_of_loop changed step crossing never

/-- A list whose nodes are linked by pointers, and a pointer to a pointer to a node. -/
def linkedNodes (size : UInt64) : TypeGraph where
  nodes := #[.void, .builtin "long" size,
    .record { kind := .structRecord, name := "node", size := 64 + size,
              members := [⟨"next", 3, 0⟩, ⟨"value", 1, 64⟩] },
    .pointer 2, .pointer 3]

/-- The values of the nodes grow. -/
def widenedNodes : TypeComparison := ⟨linkedNodes 32, linkedNodes 64, fun _ => none⟩

/-- After the pointer to a pointer to a node, comparing the pointer to a node reports the pointer and
the node inside themselves. -/
theorem widenedNodes_not_neverInside : ¬widenedNodes.NeverInside := by
  intro never
  have repeats : (widenedNodes.compare 3 3 .direct
      (widenedNodes.memoryAfter [(4, 4, .direct)])).1.any (fun difference =>
        difference.located.any fun entry =>
          !decide ((entry.1 ++ [entry.2]).map Finding.pair).Nodup) = true := by decide +kernel
  obtain ⟨difference, returned, repeats⟩ := (Option.any_eq_true _ _).mp repeats
  obtain ⟨entry, member, repeated⟩ := List.any_eq_true.mp repeats
  rw [Bool.not_eq_true', decide_eq_false_iff_not] at repeated
  exact repeated (never [(4, 4, .direct)] 3 3 .direct difference returned entry.1 entry.2 member)

end TypeComparison

end Abiscope
