import Abiscope.Proofs.DifferenceTrees

/-!
# Ways of reaching a type

A type is reached from a declaration on a path of types, some of which are pointers and references. The
way of reaching it is meant to be made out by the whole path: a pointer anywhere on it counts, a
reference only if there is no pointer.

It is the first pointer or reference on the path that counts. So both agree on every path but those
that cross a reference first and a pointer later. This holds of all findings, those in remembered
results included, since a result is remembered for one way of reaching its pair.
-/

namespace Abiscope

/-- The way of reaching what lies behind a type, if the type is a pointer or a reference. -/
def TypeNode.crossing? : TypeNode → Option Reach
  | .pointer _ => some .pointer
  | .reference .. => some .reference
  | _ => none

/-- What lies behind a pointer or reference is not reached directly. -/
theorem TypeNode.ne_direct_of_crossing? {node : TypeNode} {reach : Reach}
    (crossing : node.crossing? = some reach) : reach ≠ .direct := by
  rintro rfl
  cases node <;> simp [crossing?] at crossing

/-- The way of reaching that a whole path makes out, from what is crossed on it. -/
def Reach.ofWhole (crossed : List Reach) : Reach :=
  if .pointer ∈ crossed then .pointer else if .reference ∈ crossed then .reference else .direct

namespace Reach

/-- Once a path has crossed something, the way of reaching what comes later is settled. -/
theorem foldl_through_of_ne {reach : Reach} (crossed : List Reach) (indirect : reach ≠ .direct) :
    crossed.foldl through reach = reach := by
  induction crossed with
  | nil => rfl
  | cons step rest inductionHypothesis =>
    rw [List.foldl_cons, through, if_neg indirect, inductionHypothesis]

/-- Along a path that starts directly, the first crossing counts. -/
theorem foldl_through_direct {crossed : List Reach} (indirect : ∀ step ∈ crossed, step ≠ .direct) :
    crossed.foldl through .direct = crossed.headD .direct := by
  cases crossed with
  | nil => rfl
  | cons step rest =>
    rw [List.foldl_cons, through, if_pos rfl]
    exact foldl_through_of_ne rest (indirect step List.mem_cons_self)

/-- The first crossing tells what the whole path does, unless it is a reference and a pointer comes
later. -/
theorem headD_eq_ofWhole_iff {crossed : List Reach} (indirect : ∀ step ∈ crossed, step ≠ .direct) :
    crossed.headD .direct = ofWhole crossed ↔
      ¬∃ rest, crossed = .reference :: rest ∧ .pointer ∈ rest := by
  cases crossed with
  | nil => simp [ofWhole]
  | cons step rest =>
    cases step with
    | direct => exact absurd rfl (indirect .direct List.mem_cons_self)
    | pointer => simp [ofWhole]
    | reference => by_cases later : .pointer ∈ rest <;> simp [ofWhole, later]

end Reach

namespace TypeComparison

variable {comparison : TypeComparison}

/-- What is crossed by a path through some findings. -/
def crossed (comparison : TypeComparison) (above : List Finding) : List Reach :=
  above.filterMap fun finding => (comparison.first.node finding.old).crossing?

/-- Only pointers and references are crossed. -/
theorem ne_direct_of_mem_crossed {above : List Finding} :
    ∀ step ∈ comparison.crossed above, step ≠ .direct := by
  intro step member
  obtain ⟨finding, _, crossing⟩ := List.mem_filterMap.mp member
  exact TypeNode.ne_direct_of_crossing? crossing

/-- A part is reached as the whole is, and through the whole if that is a pointer or a reference. -/
theorem reach_of_mem_partsOf {above part : TypePart} (isPart : part ∈ comparison.partsOf above) :
    part.reach =
      ((comparison.first.node above.old).crossing?.toList).foldl Reach.through above.reach := by
  rw [partsOf] at isPart
  generalize comparison.first.node above.old = old, comparison.second.node above.new = new at *
  cases old <;> cases new <;>
    simp only [TypePart.ofNodes, List.mem_singleton, List.not_mem_nil] at isPart
  case record.record old new =>
    rw [TypePart.ofRecords] at isPart
    split at isPart
    · obtain ⟨member, _, made⟩ := List.mem_filterMap.mp isPart
      obtain ⟨counterpart, _, rfl⟩ := Option.map_eq_some_iff.mp made
      rfl
    · contradiction
  case function.function old new =>
    rcases List.mem_cons.mp isPart with rfl | parameter
    · rfl
    · obtain ⟨entry, _, rfl⟩ := List.mem_map.mp parameter
      rfl
  all_goals
    subst isPart
    rfl

/-- Where what stands below a part is reached by what is crossed from the part on, all findings of a
difference for the part are reached by what is crossed on the path to them. -/
theorem FoundFor.reach_of_inside {part : TypePart} {difference : TypeDifference}
    (found : comparison.FoundFor part difference)
    (inside : ∀ entry ∈ difference.inside.located, entry.2.reach =
      ((comparison.first.node part.old).crossing?.toList ++
        comparison.crossed entry.1).foldl Reach.through part.reach)
    {entry : List Finding × Finding} (member : entry ∈ difference.located) :
    entry.2.reach = (comparison.crossed entry.1).foldl Reach.through part.reach := by
  obtain ⟨pairs, reaches⟩ := found.finding
  rcases List.mem_cons.mp member with rfl | within
  · exact reaches
  · obtain ⟨inner, innerMember, rfl⟩ := List.mem_map.mp within
    have same : difference.finding.old = part.old := congrArg Prod.fst pairs
    rw [inside inner innerMember, crossed, crossed, List.filterMap_cons, same]
    cases (comparison.first.node part.old).crossing? <;> rfl

/-- What stands below a part is reached by what is crossed from the part on. -/
theorem Below.reach {part : TypePart} {findings : Findings} (below : comparison.Below part findings) :
    ∀ entry ∈ findings.located, entry.2.reach =
      ((comparison.first.node part.old).crossing?.toList ++
        comparison.crossed entry.1).foldl Reach.through part.reach := by
  induction below with
  | empty => exact fun _ impossible => by contradiction
  | @cons above part finding inside beside isPart _ judged ofPart _ ofInside ofBeside =>
    intro entry member
    rcases List.mem_append.mp member with within | others
    · have found : comparison.FoundFor part ⟨finding, inside⟩ := ⟨judged, ofPart⟩
      rw [found.reach_of_inside ofInside within, List.foldl_append, ← reach_of_mem_partsOf isPart]
    · exact ofBeside entry others

/-- All findings of a difference are reached by what is crossed on the path to them. -/
theorem FoundFor.reach {part : TypePart} {difference : TypeDifference}
    (found : comparison.FoundFor part difference) {entry : List Finding × Finding}
    (member : entry ∈ difference.located) :
    entry.2.reach = (comparison.crossed entry.1).foldl Reach.through part.reach :=
  found.reach_of_inside found.inside.reach member

/-- After some comparisons, all findings about a pair of types that is reached directly are reached in
the way that the whole path to them makes out. -/
def FollowsPaths (comparison : TypeComparison) (calls : List (Nat × Nat × Reach)) (old new : Nat) :
    Prop :=
  ∀ difference, (comparison.compare old new .direct (comparison.memoryAfter calls)).1 =
      some difference →
    ∀ above finding, (above, finding) ∈ difference.located →
      finding.reach = Reach.ofWhole (comparison.crossed above)

/-- After any comparisons, the findings about two types are reached as the first pointer or reference
on the path to them says. -/
theorem reach_of_mem_located {calls : List (Nat × Nat × Reach)} {old new : Nat}
    {difference : TypeDifference}
    (returned : (comparison.compare old new .direct (comparison.memoryAfter calls)).1 =
      some difference)
    {above : List Finding} {finding : Finding} (member : (above, finding) ∈ difference.located) :
    finding.reach = (comparison.crossed above).headD .direct := by
  rw [(foundFor_compare returned).reach member]
  exact Reach.foldl_through_direct ne_direct_of_mem_crossed

/-- The whole path decides how a finding is reached, in remembered results too, exactly if no finding
lies behind a reference and, further down, a pointer.

Proof: it is the first crossing that decides, and both agree unless it is a reference and a pointer
comes later. -/
theorem followsPaths_iff (comparison : TypeComparison) (calls : List (Nat × Nat × Reach))
    (old new : Nat) :
    comparison.FollowsPaths calls old new ↔
      ∀ difference, (comparison.compare old new .direct (comparison.memoryAfter calls)).1 =
          some difference →
        ∀ above finding, (above, finding) ∈ difference.located →
          ¬∃ rest, comparison.crossed above = .reference :: rest ∧ .pointer ∈ rest := by
  constructor
  · intro follows difference returned above finding member
    rw [← Reach.headD_eq_ofWhole_iff ne_direct_of_mem_crossed, ← reach_of_mem_located returned member]
    exact follows difference returned above finding member
  · intro apart difference returned above finding member
    rw [reach_of_mem_located returned member, Reach.headD_eq_ofWhole_iff ne_direct_of_mem_crossed]
    exact apart difference returned above finding member

/-- A reference to a pointer to a struct of a given size. -/
def movedPoint (size : UInt64) : TypeGraph where
  nodes := #[.void, .builtin "int" 32,
    .record { kind := .structRecord, name := "point", size := size, members := [⟨"x", 1, 0⟩] },
    .pointer 2, .reference 3 false]

/-- The struct grows. -/
def grownPoint : TypeComparison := ⟨movedPoint 32, movedPoint 64, fun _ => none⟩

/-- The struct is said to be reached through a reference, though there is a pointer on the path. -/
theorem grownPoint_not_followsPaths : ¬grownPoint.FollowsPaths [] 4 4 := by
  intro follows
  have strays : (grownPoint.compare 4 4 .direct (grownPoint.memoryAfter [])).1.any
      (fun difference => difference.located.any fun entry =>
        entry.2.reach != Reach.ofWhole (grownPoint.crossed entry.1)) = true := by decide +kernel
  obtain ⟨difference, returned, strays⟩ := (Option.any_eq_true _ _).mp strays
  obtain ⟨entry, member, differs⟩ := List.any_eq_true.mp strays
  exact bne_iff_ne.mp differs (follows difference returned entry.1 entry.2 member)

end TypeComparison

end Abiscope
