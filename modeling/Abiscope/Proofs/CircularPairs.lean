import Abiscope.Proofs.Histories
import Abiscope.Proofs.RememberedPairs
import Mathlib.Data.List.Chain
import Mathlib.Data.List.Nodup

/-!
# Circles of pairs

Where a changed pair leads to another one and back, there is a circle in which some pair leads to the
changes without the pair before it. If the pairs of the circle are compared one after the other against
its direction, the pair before it first, then each result is remembered and contains the one before.
The last one is about the pair itself and contains it at its other end.
-/

namespace Abiscope

namespace TypeComparison

open Relation (ReflTransGen TransGen)

variable {comparison : TypeComparison} {pair child : Nat × Nat} {memory : Memory}

/-! ## Walks and circles -/

/-- A pair that leads on names types. -/
theorem Steps.names (step : comparison.Steps pair child) : comparison.Names pair := by
  by_contra unnamed
  obtain ⟨inner, isPart, _⟩ := (steps_iff_mem_partsOf (.whole pair .direct)).mp step
  rw [@partsOf_of_not_names comparison (.whole pair .direct) unnamed] at isPart
  contradiction

/-- A pair that leads to another one names types. -/
theorem names_of_path {other : Nat × Nat} (path : ReflTransGen comparison.Steps pair other)
    (differs : other ≠ pair) : comparison.Names pair := by
  rcases ReflTransGen.cases_head path with same | ⟨next, step, _⟩
  · exact absurd same.symm differs
  · exact step.names

/-- A path from another pair comes into a pair from another pair. -/
theorem exists_step_into {other : Nat × Nat} (path : ReflTransGen comparison.Steps other pair)
    (differs : other ≠ pair) :
    ∃ last, last ≠ pair ∧ ReflTransGen comparison.Steps other last ∧ comparison.Steps last pair := by
  induction path using ReflTransGen.head_induction_on with
  | refl => exact absurd rfl differs
  | @head other next step path inductionHypothesis =>
    by_cases same : next = pair
    · exact ⟨other, differs, .refl, same ▸ step⟩
    · obtain ⟨last, lastDiffers, toLast, into⟩ := inductionHypothesis same
      exact ⟨last, lastDiffers, .head step toLast, into⟩

/-- What is exposed on pairs that pass is exposed on others if these are all the pairs that are led to. -/
theorem Exposes.of_led {passes others : Nat × Nat → Prop} (exposed : comparison.Exposes passes pair)
    (led : ∀ other, ReflTransGen comparison.Steps pair other → others other) :
    comparison.Exposes others pair := by
  induction exposed with
  | here _ changed => exact .here (led _ .refl) changed
  | behind _ step _ inductionHypothesis =>
    exact .behind (led _ .refl) step (inductionHypothesis fun other path => led other (.head step path))

/-- If changes are exposed by a pair that leads to another one and back, some pair of a circle exposes
changes without the pair before it.

Proof: the last pair on the way to the changes that is on a circle of several pairs leads to them without
coming back to any pair of its circle. -/
theorem exists_link {passes : Nat × Nat → Prop} (exposed : comparison.Exposes passes pair)
    {other : Nat × Nat} (differs : other ≠ pair) (there : TransGen comparison.Steps pair other)
    (back : TransGen comparison.Steps other pair) :
    ∃ before target, before ≠ target ∧ comparison.Steps before target ∧
      ReflTransGen comparison.Steps target before ∧
      comparison.Exposes (fun other => other ≠ before) target := by
  induction exposed generalizing other with
  | @here pair _ changed =>
    obtain ⟨last, lastDiffers, toLast, into⟩ := exists_step_into back.to_reflTransGen differs
    exact ⟨last, pair, lastDiffers, into, there.to_reflTransGen.trans toLast,
      .here lastDiffers.symm changed⟩
  | @behind pair child _ step exposed inductionHypothesis =>
    by_cases circle : ∃ other, other ≠ child ∧ TransGen comparison.Steps child other ∧
        TransGen comparison.Steps other child
    · obtain ⟨other, differs, there, back⟩ := circle
      exact inductionHypothesis differs there back
    · obtain ⟨last, lastDiffers, toLast, into⟩ := exists_step_into back.to_reflTransGen differs
      refine ⟨last, pair, lastDiffers, into, there.to_reflTransGen.trans toLast,
        .behind lastDiffers.symm step (exposed.of_led ?_)⟩
      rintro led path rfl
      -- The child would be on a circle with the pair.
      by_cases same : pair = child
      · exact circle ⟨other, same ▸ differs, same ▸ there, same ▸ back⟩
      · exact circle ⟨pair, same, .tail' path into, .single step⟩

/-- A walk that leads from one node to another need not come back to a node. -/
theorem exists_nodup_isChain {α : Type} {relation : α → α → Prop} {first last : α}
    (path : ReflTransGen relation first last) :
    ∃ rest, (first :: rest).IsChain relation ∧ (first :: rest).getLast? = some last ∧
      (first :: rest).Nodup := by
  induction path using ReflTransGen.head_induction_on with
  | refl => exact ⟨[], .singleton _, rfl, List.nodup_singleton _⟩
  | @head first next step _ inductionHypothesis =>
    obtain ⟨rest, linked, ends, distinct⟩ := inductionHypothesis
    by_cases again : first ∈ next :: rest
    · obtain ⟨before, after, split⟩ := List.append_of_mem again
      rw [split] at linked ends distinct
      refine ⟨after, linked.right_of_append, ?_, (List.nodup_append.mp distinct).2.1⟩
      rw [← ends, List.getLast?_append_cons]
    · exact ⟨next :: rest, .cons_cons step linked, ends, List.nodup_cons.mpr ⟨again, distinct⟩⟩

/-- The pairs of a walk against its direction lead to its first one on pairs of the walk. -/
theorem reaches_of_isChain {passes goal : Nat × Nat → Prop} {first : Nat × Nat}
    {rest : List (Nat × Nat)} (start : comparison.Reaches passes goal first)
    (linked : (first :: rest).IsChain fun later earlier => comparison.Steps earlier later)
    (pass : ∀ pair ∈ rest, passes pair) : ∀ pair ∈ rest, comparison.Reaches passes goal pair := by
  induction rest generalizing first with
  | nil => exact fun _ impossible => by contradiction
  | cons next rest inductionHypothesis =>
    obtain ⟨step, linked⟩ := List.isChain_cons_cons.mp linked
    have reaches : comparison.Reaches passes goal next :=
      .behind (pass next List.mem_cons_self) step start
    refine List.forall_mem_cons.mpr ⟨reaches, ?_⟩
    exact inductionHypothesis reaches linked fun pair member => pass pair (List.mem_cons_of_mem _ member)

/-! ## What is remembered on a circle -/

/-- A pair is remembered, reached through a pointer, with a target inside. -/
def Shows (comparison : TypeComparison) (memory : Memory) (pair target : Nat × Nat) : Prop :=
  ∃ difference, memory.get? (comparison.key (.whole pair .pointer)) = some (some difference) ∧
    ∃ entry ∈ difference.located, entry.1 ≠ [] ∧ entry.2.pair = target

/-- A pair that is not a goal but leads to one names types. -/
theorem Reaches.names {passes goal : Nat × Nat → Prop} (reaches : comparison.Reaches passes goal pair)
    (other : ¬goal pair) : comparison.Names pair := by
  cases reaches with
  | here _ isGoal => exact absurd isGoal other
  | behind _ step _ => exact step.names

/-- The parts of a pair that is reached through a pointer are reached through it. -/
theorem reach_eq_pointer {part : TypePart}
    (isPart : part ∈ comparison.partsOf (.whole pair .pointer)) : part.reach = .pointer :=
  reach_eq_of_mem_partsOf (show Reach.pointer ≠ .direct by decide) isPart

/-- Where a pair is reached through a pointer, so is the part that it leads to. -/
theorem exists_part_of_steps (step : comparison.Steps pair child) :
    ∃ part ∈ comparison.partsOf (.whole pair .pointer),
      part.pair = child ∧ comparison.key part = comparison.key (.whole child .pointer) := by
  obtain ⟨part, isPart, same⟩ := (steps_iff_mem_partsOf (.whole pair .pointer)).mp step
  exact ⟨part, isPart, same, key_congr same (reach_eq_pointer isPart)⟩

/-- Comparing a pair does not make others remembered that lead back to it, if none of the pairs on the
way is remembered. -/
theorem get?_compare_of_reaches {passes : Nat × Nat → Prop} {other : Nat × Nat}
    (named : comparison.Names pair)
    (unknown : ∀ other, passes other →
      memory.get? (comparison.key (.whole other .pointer)) = none)
    (differs : other ≠ pair) (pass : passes pair)
    (reaches : comparison.Reaches passes (· = pair) other) :
    (comparison.compare pair.1 pair.2 .pointer memory).2.get?
      (comparison.key (.whole other .pointer)) = none := by
  have otherNamed : comparison.Names other := reaches.names differs
  have keys : comparison.key (.whole pair .pointer) ≠ comparison.key (.whole other .pointer) :=
    fun same => differs (@key_inj comparison (.whole pair .pointer) (.whole other .pointer) named
      otherNamed same).1.symm
  rw [get?_compare_of_key_ne named (unknown pair pass) keys]
  have shuts : comparison.Shuts .pointer passes pair memory :=
    fun inner _ known reaches => known (unknown inner reaches.passes_of)
  have shutsAfter : comparison.Shuts .pointer passes pair
      (comparison.runInside named .pointer memory).2.2 :=
    ((comparison.shut_run (by decide) passes named).2 (alone named) _ memory List.mem_cons_self
      (fun _ => reach_eq_pointer) shuts).1
  by_contra known
  exact shutsAfter other otherNamed known reaches

/-- Comparing the first pair of a walk against its direction leaves the others unknown. -/
theorem get?_compare_of_isChain {first : Nat × Nat} {rest : List (Nat × Nat)}
    (named : comparison.Names first)
    (linked : (first :: rest).IsChain fun later earlier => comparison.Steps earlier later)
    (distinct : (first :: rest).Nodup)
    (unknown : ∀ pair ∈ first :: rest, memory.get? (comparison.key (.whole pair .pointer)) = none) :
    ∀ pair ∈ rest, (comparison.compare first.1 first.2 .pointer memory).2.get?
      (comparison.key (.whole pair .pointer)) = none := by
  have leads : ∀ pair ∈ rest, comparison.Reaches (· ∈ first :: rest) (· = first) pair :=
    reaches_of_isChain (.here List.mem_cons_self rfl) linked fun pair member =>
      List.mem_cons_of_mem _ member
  intro pair member
  have differs : pair ≠ first := fun same => (List.nodup_cons.mp distinct).1 (same ▸ member)
  exact get?_compare_of_reaches named unknown differs List.mem_cons_self (leads pair member)

/-- Comparing a pair first makes it remembered with a target inside that it leads to, if the target
exposes changes without the pair. -/
theorem shows_of_exposes {target : Nat × Nat} (step : comparison.Steps pair target)
    (exposed : comparison.Exposes (fun other => other ≠ pair) target) :
    comparison.Shows (comparison.compare pair.1 pair.2 .pointer ∅).2 pair target := by
  have named := step.names
  have unknown := get?_empty (comparison.key (.whole pair .pointer))
  obtain ⟨part, isPart, same, _⟩ := exists_part_of_steps step
  have kept (part : TypePart) (memory : Memory)
      (held : comparison.difference.Settles memory ∧ comparison.RecallsFound memory) :
      comparison.difference.Settles (comparison.compareOn (alone named) part memory).2 ∧
        comparison.RecallsFound (comparison.compareOn (alone named) part memory).2 :=
    ⟨(comparison.difference.run.1 (alone named) part memory held.1).1,
      (comparison.found_run.1 (alone named) part memory held.2).1⟩
  obtain ⟨between, ⟨settles, recalls⟩, placed⟩ := exists_compare_above named unknown isPart kept
    ⟨comparison.difference.settles_memoryAfter [], recallsFound_memoryAfter []⟩
  have bounds := (comparison.difference.run.1 (alone named) part between settles).2
  have yes := bounds.complete part.pair (List.mem_singleton_self _) <| by
    rw [same]
    refine exposed.mono fun other differs => ⟨trivial, ?_⟩
    rintro ⟨otherNamed, entered, _⟩
    exact differs (numberOf_inj otherNamed named (List.mem_singleton.mp entered))
  cases result : (comparison.compareOn (alone named) part between).1.difference with
  | none =>
    rw [result] at yes
    contradiction
  | some found =>
    obtain ⟨difference, returned, inside⟩ := placed found result
    have about := ((comparison.found_run.1 (alone named) part between recalls).2.2.1 found
      result).finding.1
    refine ⟨difference, ?_, _, inside _ List.mem_cons_self, List.cons_ne_nil _ _, about.trans same⟩
    rw [get?_compare_self named unknown, returned]

/-- A pair that leads to one with a target inside has the target inside when it is compared next. -/
theorem Shows.compare {target : Nat × Nat} (shows_ : comparison.Shows memory child target)
    (step : comparison.Steps pair child) (childNamed : comparison.Names child)
    (unknown : memory.get? (comparison.key (.whole pair .pointer)) = none) :
    comparison.Shows (comparison.compare pair.1 pair.2 .pointer memory).2 pair target := by
  obtain ⟨found, remembered, entry, member, _, isTarget⟩ := shows_
  obtain ⟨part, isPart, same, keys⟩ := exists_part_of_steps step
  obtain ⟨difference, returned, inside⟩ := exists_compare_of_remembered step.names unknown isPart
    (same ▸ childNamed) (keys ▸ remembered)
  refine ⟨difference, ?_, _, inside entry member, List.cons_ne_nil _ _, isTarget⟩
  rw [get?_compare_self step.names unknown, returned]

/-- If the pairs of a walk are compared one after the other against its direction, each has the target
inside if the first one has.

Proof: by induction on the walk. Comparing a pair leaves those that lead to it unknown. -/
theorem exists_shows {first last target : Nat × Nat} {rest : List (Nat × Nat)}
    (history : comparison.IsHistory memory) (shows_ : comparison.Shows memory first target)
    (named : comparison.Names first)
    (linked : (first :: rest).IsChain fun later earlier => comparison.Steps earlier later)
    (distinct : (first :: rest).Nodup) (ends : (first :: rest).getLast? = some last)
    (unknown : ∀ pair ∈ rest, memory.get? (comparison.key (.whole pair .pointer)) = none) :
    ∃ after, comparison.IsHistory after ∧ comparison.Shows after last target := by
  induction rest generalizing first memory with
  | nil =>
    obtain rfl := Option.some.inj ends
    exact ⟨memory, history, shows_⟩
  | cons next rest inductionHypothesis =>
    obtain ⟨step, linkedRest⟩ := List.isChain_cons_cons.mp linked
    exact inductionHypothesis (history.compare next.1 next.2 .pointer)
      (shows_.compare step named (unknown next List.mem_cons_self)) step.names linkedRest
      distinct.of_cons ends (get?_compare_of_isChain step.names linkedRest distinct.of_cons unknown)

end TypeComparison

end Abiscope
