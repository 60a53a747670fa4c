import Abiscope.Proofs.DifferenceTrees
import Abiscope.Proofs.LoneDeclarations
import Abiscope.Proofs.MatchingTypes
import Abiscope.Suppression

/-!
# Rules that hide inserted members

A rule about types may hide that members were inserted at certain offsets, if nothing else changed. What
it asks for is judged from what was found: that the changes of the type are inserted members, and growth,
and that there are no findings below. But findings below may be missing for other reasons. A circle was
cut, or something was remembered from another place.

Still, nothing is hidden that the rule does not ask for. Where there are no findings below a pair, the
only circles that were cut there lead back to the pair itself. So its parts expose nothing on any path
that does not come back to it, and this holds for whatever is remembered as well.
-/

namespace Abiscope

namespace TypeComparison

variable {comparison : TypeComparison} {part : TypePart} {memory : Memory}

/-! ## Where there are no findings below -/

/-- From the parts of a pair no path leads to changes that does not come back to the pair. -/
def QuietInside (comparison : TypeComparison) (pair : Nat × Nat) : Prop :=
  ∀ child, comparison.Steps pair child → ¬comparison.Exposes (· ≠ pair) child

/-- Where there are no findings below what is remembered for a pair, the pair is quiet inside. -/
def RecallsQuiet (comparison : TypeComparison) (memory : Memory) : Prop :=
  ∀ part : TypePart, comparison.Names part.pair → ∀ difference,
    memory.get? (comparison.key part) = some (some difference) → difference.inside = .empty →
      comparison.QuietInside part.pair

/-- Remembering what is quiet inside keeps this. -/
theorem RecallsQuiet.insert {result : Option TypeDifference} (recalls : comparison.RecallsQuiet memory)
    (named : comparison.Names part.pair)
    (quiet : ∀ difference, result = some difference → difference.inside = .empty →
      comparison.QuietInside part.pair) :
    comparison.RecallsQuiet (memory.insert (comparison.key part) result) := by
  intro other otherNamed difference known empty
  rw [Std.TreeMap.get?_eq_getElem?, Std.TreeMap.getElem?_insert] at known
  by_cases same : Ord.compare (comparison.key part) (comparison.key other) = .eq
  · rw [if_pos same, Option.some_inj] at known
    obtain ⟨pairs, _⟩ := key_inj named otherNamed (Std.LawfulEqOrd.eq_of_compare same)
    exact pairs ▸ quiet difference known empty
  · rw [if_neg same] at known
    exact recalls other otherNamed difference known empty

/-- A pair that was entered, without findings below and without cuts that are open above it, is quiet
inside. The cuts below it, if there are any, are at the pair itself. -/
theorem quietInside_of_enter {trail : Trail comparison.pairs}
    (settles : comparison.difference.Settles memory) (named : comparison.Names part.pair)
    (fresh : comparison.number part ∉ trail.nodes)
    (empty : (comparison.compareEach (trail.enter _ fresh (number_lt named)) (comparison.partsOf part)
      memory).1 = .empty)
    (shut : (comparison.compareEach (trail.enter _ fresh (number_lt named)) (comparison.partsOf part)
      memory).2.1.filter (· < trail.nodes.length) = none) :
    comparison.QuietInside part.pair := by
  intro child step exposed
  obtain ⟨inner, member, rfl⟩ := (steps_iff_mem_partsOf part).mp step
  obtain ⟨_, bounds, _⟩ := comparison.difference.run.2 (trail.enter _ fresh (number_lt named))
    (comparison.partsOf part) memory settles
  have found := bounds.complete inner.pair (List.mem_map_of_mem member) (exposed.mono ?_)
  · rw [empty] at found
    contradiction
  · intro other differs
    refine ⟨trivial, fun opened => ?_⟩
    rcases opened.eq_or_of_enter named fresh with same | before
    · exact differs same
    · rw [shut] at before
      exact not_isOpen_none before

/-- Runs keep it that what is remembered without findings below is quiet inside. -/
theorem quiet_run (comparison : TypeComparison) :
    (∀ trail part memory, comparison.difference.Settles memory → comparison.RecallsQuiet memory →
      comparison.RecallsQuiet (comparison.compareOn trail part memory).2) ∧
    ∀ trail parts memory, comparison.difference.Settles memory → comparison.RecallsQuiet memory →
      comparison.RecallsQuiet (comparison.compareEach trail parts memory).2.2 := by
  apply call_induction comparison
    (fun trail part memory => comparison.difference.Settles memory → comparison.RecallsQuiet memory →
      comparison.RecallsQuiet (comparison.compareOn trail part memory).2)
    (fun trail parts memory => comparison.difference.Settles memory → comparison.RecallsQuiet memory →
      comparison.RecallsQuiet (comparison.compareEach trail parts memory).2.2)
  case unnamed =>
    intro trail part memory unnamed _ recalls
    rw [compareOn_of_not_names comparison trail memory unnamed]
    exact recalls
  case known =>
    intro trail part memory difference named known _ recalls
    rw [compareOn_of_known comparison trail named known]
    exact recalls
  case entered =>
    intro trail part memory named unknown entered _ recalls
    rw [compareOn_of_mem comparison trail named unknown entered]
    exact recalls
  case enter =>
    intro trail part memory named fresh unknown inductionHypothesis settles recalls
    have after := inductionHypothesis settles recalls
    rw [compareOn_of_not_mem comparison trail named unknown fresh, settle]
    dsimp only
    split
    · next shut =>
      refine after.insert named fun difference judged empty => ?_
      rw [(judge_eq_some judged).2.2.2] at empty
      exact quietInside_of_enter settles named fresh empty (Option.isNone_iff_eq_none.mp shut)
    · exact after
  case nil =>
    intro trail memory _ recalls
    rw [compareEach_nil]
    exact recalls
  case cons =>
    intro trail part rest memory ofPart ofRest settles recalls
    rw [compareEach_cons]
    exact ofRest (comparison.difference.run.1 trail part memory settles).1 (ofPart settles recalls)

/-- Whatever was compared before, what is remembered without findings below is quiet inside. -/
theorem recallsQuiet_memoryAfter (calls : List (Nat × Nat × Reach)) :
    comparison.RecallsQuiet (comparison.memoryAfter calls) := by
  refine (@memoryAfter_induction comparison
    (fun memory => comparison.difference.Settles memory ∧ comparison.RecallsQuiet memory) ?_ ?_ calls).2
  · refine ⟨comparison.difference.settles_memoryAfter [], ?_⟩
    intro part _ difference known
    rw [get?_empty] at known
    contradiction
  · rintro memory ⟨settles, recalls⟩ old new reach
    exact ⟨settles.compare old new reach,
      comparison.quiet_run.1 Trail.start ⟨"", old, new, reach⟩ memory settles recalls⟩

/-- If a comparison, after any others, returns no findings below, its pair is quiet inside. -/
theorem quietInside_of_compare {calls : List (Nat × Nat × Reach)} {old new : Nat} {reach : Reach}
    {difference : TypeDifference}
    (returned : (comparison.compare old new reach (comparison.memoryAfter calls)).1 =
      some difference) (empty : difference.inside = .empty) :
    comparison.QuietInside (old, new) := by
  let part : TypePart := ⟨"", old, new, reach⟩
  change (comparison.compareOn Trail.start part (comparison.memoryAfter calls)).1.difference = _
    at returned
  by_cases named : comparison.Names part.pair
  · cases known : (comparison.memoryAfter calls).get? (comparison.key part) with
    | none =>
      have fresh : comparison.number part ∉ (Trail.start : Trail comparison.pairs).nodes :=
        List.not_mem_nil
      rw [compareOn_of_not_mem comparison Trail.start named known fresh] at returned
      refine quietInside_of_enter (comparison.difference.settles_memoryAfter calls) named fresh ?_ ?_
      · rw [← (judge_eq_some returned).2.2.2]
        exact empty
      · rw [Option.filter_eq_none_iff]
        exact fun depth _ shallow => Nat.not_lt_zero depth (of_decide_eq_true shallow)
    | some result =>
      rw [compareOn_of_known comparison Trail.start named known] at returned
      obtain rfl : result = some difference := returned
      exact recallsQuiet_memoryAfter calls part named difference known empty
  · intro child step
    obtain ⟨inner, member, _⟩ := (steps_iff_mem_partsOf part).mp step
    rw [partsOf_of_not_names named] at member
    contradiction

end TypeComparison

/-! ## Changes that are growth -/

/-- A change that adds a member or gives a type another size. -/
def TypeChange.isGrowth : TypeChange → Bool
  | memberAdded .. | resized .. => true
  | _ => false

/-- A record has grown into another one of its kind and name: it has the members that it had where they
were, and at least one that is new, which is one of a name that the old record does not have. -/
structure Record.GrowsInto (old new : Record) : Prop where
  complete : old.isDeclaration = false ∧ new.isDeclaration = false
  kind : old.kind = new.kind
  name : old.name = new.name
  kept : ∀ member ∈ old.members, ∃ counterpart,
    new.member? member.name = some counterpart ∧ counterpart.offset = member.offset
  inserts : ∃ member ∈ new.members, old.member? member.name = none

namespace TypeGraph

open TypeChange (ifDiffer isGrowth)

/-- What would be another change than growth is not there, so its values are equal. -/
theorem eq_of_all_isGrowth {α : Type} [BEq α] [LawfulBEq α] {old new : α}
    {change : α → α → TypeChange} (all : (ifDiffer old new change).all isGrowth = true)
    (other : (change old new).isGrowth = false) : old = new := by
  rw [← TypeChange.ifDiffer_eq_nil_iff old new change]
  by_cases same : (old == new) = true
  · rw [ifDiffer, if_pos same]
  · rw [ifDiffer, if_neg same, List.all_cons, other, Bool.false_and] at all
    contradiction

/-- No member was added where something else would have been said. -/
theorem memberAdded_not_mem_ifDiffer {α : Type} [BEq α] {old new : α} {change : α → α → TypeChange}
    {name type : String} {offset : UInt64} (other : change old new ≠ .memberAdded name type offset) :
    .memberAdded name type offset ∉ ifDiffer old new change := by
  rw [ifDiffer]
  split
  · exact List.not_mem_nil
  · exact fun member => other (List.mem_singleton.mp member).symm

/-- Members are added to complete records only. -/
theorem memberAdded_mem_recordChanges_iff {first second : TypeGraph} {old new : Record}
    {name type : String} {offset : UInt64} :
    .memberAdded name type offset ∈ recordChanges first second old new ↔
      old.bothComplete new = true ∧
        .memberAdded name type offset ∈ memberChanges first second old new := by
  simp only [recordChanges, List.mem_append, memberAdded_not_mem_ifDiffer, ne_eq, reduceCtorEq,
    not_false_eq_true, false_or]
  cases old.bothComplete new with
  | true =>
    simp only [if_true, List.mem_append, memberAdded_not_mem_ifDiffer, ne_eq, reduceCtorEq,
      not_false_eq_true, false_or, true_and]
  | false => simp only [Bool.false_eq_true, if_false, List.not_mem_nil, false_and]

/-- No change of enumerators adds a member. -/
theorem memberAdded_not_mem_enumeratorChanges {old new : Enumeration} {name type : String}
    {offset : UInt64} : .memberAdded name type offset ∉ enumeratorChanges old new := by
  rw [enumeratorChanges, List.mem_append, List.mem_flatMap, List.mem_filterMap]
  rintro (⟨enumerator, _, added⟩ | ⟨enumerator, _, added⟩)
  · cases found : new.enumerator? enumerator.name with
    | none =>
      rw [found] at added
      exact absurd (List.mem_singleton.mp added) (by simp)
    | some counterpart =>
      rw [found] at added
      exact memberAdded_not_mem_ifDiffer (by simp) added
  · exact absurd (Option.ite_none_right_eq_some.mp added).2 (by simp)

/-- Members are added to records only. -/
theorem exists_records_of_memberAdded {first second : TypeGraph} {old new : Nat}
    {name type : String} {offset : UInt64}
    (added : .memberAdded name type offset ∈ localChanges first second old new) :
    ∃ oldRecord newRecord, first.node old = .record oldRecord ∧ second.node new = .record newRecord ∧
      localChanges first second old new = recordChanges first second oldRecord newRecord := by
  rw [localChanges] at added ⊢
  cases oldNode : first.node old <;> cases newNode : second.node new <;> rw [oldNode, newNode] at added
  case record.record oldRecord newRecord => exact ⟨oldRecord, newRecord, rfl, rfl, rfl⟩
  all_goals
    simp only [List.mem_append, memberAdded_not_mem_ifDiffer, memberAdded_not_mem_enumeratorChanges,
      List.mem_singleton, List.not_mem_nil, ne_eq, reduceCtorEq, not_false_eq_true, or_self] at added

/-- Among the changes of members, those that add one are about the new members that the old record does
not have. -/
theorem memberAdded_mem_memberChanges_iff {first second : TypeGraph} {old new : Record}
    {name type : String} {offset : UInt64} :
    .memberAdded name type offset ∈ memberChanges first second old new ↔
      ∃ member ∈ new.members, old.member? member.name = none ∧ member.name = name ∧
        second.name member.type = type ∧ member.offset = offset := by
  rw [memberChanges, List.mem_append, List.mem_flatMap, List.mem_filterMap]
  constructor
  · rintro (⟨member, _, added⟩ | ⟨member, inside, added⟩)
    · cases found : new.member? member.name with
      | none =>
        rw [found] at added
        exact absurd (List.mem_singleton.mp added) (by simp)
      | some counterpart =>
        rw [found] at added
        exact absurd added (memberAdded_not_mem_ifDiffer (by simp))
    · obtain ⟨lacks, same⟩ := Option.ite_none_right_eq_some.mp added
      rw [Option.some_inj, TypeChange.memberAdded.injEq] at same
      exact ⟨member, inside, Option.isNone_iff_eq_none.mp lacks, same⟩
  · rintro ⟨member, inside, lacks, rfl, rfl, rfl⟩
    refine .inr ⟨member, inside, ?_⟩
    rw [lacks, Option.isNone_none, if_pos rfl]

/-- If all changes of the members are growth, the old members are where they were. -/
theorem kept_of_all_isGrowth {first second : TypeGraph} {old new : Record}
    (all : (memberChanges first second old new).all isGrowth = true) :
    ∀ member ∈ old.members, ∃ counterpart,
      new.member? member.name = some counterpart ∧ counterpart.offset = member.offset := by
  intro member inside
  rw [memberChanges, List.all_append, Bool.and_eq_true, List.all_flatMap, List.all_eq_true] at all
  have ofMember := all.1 member inside
  cases found : new.member? member.name with
  | none =>
    rw [found] at ofMember
    contradiction
  | some counterpart =>
    rw [found] at ofMember
    exact ⟨counterpart, rfl, (eq_of_all_isGrowth ofMember rfl).symm⟩

/-- If all changes of a record are growth and a member was added, the record has grown into the other one.
-/
theorem growsInto_of_all_isGrowth {first second : TypeGraph} {old new : Record}
    {name type : String} {offset : UInt64}
    (all : (recordChanges first second old new).all isGrowth = true)
    (added : .memberAdded name type offset ∈ recordChanges first second old new) :
    old.GrowsInto new := by
  obtain ⟨complete, inMembers⟩ := memberAdded_mem_recordChanges_iff.mp added
  obtain ⟨member, inside, lacks, _⟩ := memberAdded_mem_memberChanges_iff.mp inMembers
  rw [recordChanges, if_pos complete] at all
  simp only [List.all_append, Bool.and_eq_true] at all
  obtain ⟨⟨⟨kind, named⟩, _⟩, _, members⟩ := all
  rw [Record.bothComplete, Bool.and_eq_true, Bool.not_eq_true', Bool.not_eq_true'] at complete
  exact ⟨complete, eq_of_all_isGrowth kind rfl, eq_of_all_isGrowth named rfl,
    kept_of_all_isGrowth members, member, inside, lacks⟩

/-- The size of a record is the one that it has. -/
theorem sizeOf?_of_record {graph : TypeGraph} {id : Nat} {record : Record}
    (isRecord : graph.node id = .record record) : graph.sizeOf? id = .ok (some record.size) := by
  have settles : graph.settled? (graph.size + 1) id = some id :=
    settled?_of_base?_eq_none (congrArg TypeNode.base? isRecord) graph.size
  have sized := sizing_of_repeated?_eq_none settles (congrArg TypeNode.repeated? isRecord)
  rw [sizeOf?, sized, ownSize?, isRecord]
  rfl

end TypeGraph

namespace TypeComparison

variable {comparison : TypeComparison}

/-- Offsets of inserted members are found only where there are no findings below, all changes are growth
and a member was added, and then they are those of all members that were added. -/
theorem insertedOffsets_eq_some {changes : List TypeChange} {inside : Findings} {offsets : List UInt64}
    (found : insertedOffsets changes inside = some offsets) :
    inside = .empty ∧ changes.all TypeChange.isGrowth = true ∧
      (∃ name type offset, .memberAdded name type offset ∈ changes) ∧
      ∀ name type offset, .memberAdded name type offset ∈ changes → offset ∈ offsets := by
  obtain ⟨⟨⟨empty, all⟩, inserts⟩, same⟩ := by
    simpa only [insertedOffsets, Option.ite_none_right_eq_some, Bool.and_eq_true] using found
  refine ⟨?_, ?_, ?_, ?_⟩
  · cases inside with
    | empty => rfl
    | cons => contradiction
  · refine List.all_eq_true.mpr fun change member => ?_
    have growth := List.all_eq_true.mp all change member
    cases change <;> first | rfl | contradiction
  · cases offsets with
    | nil =>
      rw [Option.some.inj same] at inserts
      contradiction
    | cons offset rest =>
      have member : offset ∈ offset :: rest := List.mem_cons_self
      rw [← Option.some.inj same, List.mem_filterMap] at member
      obtain ⟨change, inChanges, added⟩ := member
      cases change with
      | memberAdded name type other => exact ⟨name, type, other, inChanges⟩
      | _ => contradiction
  · intro name type offset member
    rw [← Option.some.inj same, List.mem_filterMap]
    exact ⟨_, member, rfl⟩

/-- The types of members that a record keeps are compared as its parts. -/
theorem steps_of_member {old new : Nat} {oldRecord newRecord : Record} {member counterpart : Member}
    (oldNode : comparison.first.node old = .record oldRecord)
    (newNode : comparison.second.node new = .record newRecord)
    (grows : oldRecord.GrowsInto newRecord) (inside : member ∈ oldRecord.members)
    (named : newRecord.member? member.name = some counterpart) :
    comparison.Steps (old, new) (member.type, counterpart.type) := by
  have complete : oldRecord.bothComplete newRecord = true := by
    rw [Record.bothComplete, grows.complete.1, grows.complete.2]
    rfl
  rw [Steps, oldNode, newNode]
  exact (mem_ofRecords_iff _ _ _).mpr ⟨complete, member, inside, counterpart, named, rfl⟩

/-- What is found for a part has the changes of its pair, and the label that these have with the findings
below. -/
theorem label_of_judge {part : TypePart} {findings : Findings} {difference : TypeDifference}
    (judged : comparison.judge part findings = some difference) :
    difference.finding.changes = comparison.changesAt part.pair ∧
      difference.finding.suppressedBy =
        comparison.label? (comparison.factsOf part difference.finding.changes findings) := by
  rw [judge] at judged
  obtain rfl := Option.some.inj (Option.ite_none_left_eq_some.mp judged).2
  exact ⟨rfl, rfl⟩

end TypeComparison

namespace Suppression

/-- An offset lies in a range, in a type of some size. The end of the type is its size as the lower end of
the range; as the upper end it is no limit. -/
def InsertionRange.Covers (range : InsertionRange) (size offset : UInt64) : Prop :=
  (∀ bits, range.first = .offset bits → bits ≤ offset) ∧
    (range.first = .endOfType → size ≤ offset) ∧ ∀ bits, range.last = .offset bits → offset ≤ bits

/-- A range contains the offsets that lie in it. -/
theorem InsertionRange.contains_iff (range : InsertionRange) (offset size : UInt64) :
    range.contains offset size = true ↔ range.Covers size offset := by
  obtain ⟨first, last⟩ := range
  cases first <;> cases last <;> simp [contains, Covers]

/-- A rule that asks for inserted members applies only where there are some, and all of these are in its
ranges. -/
theorem TypeRule.insertions_of_suppresses {rule : TypeRule} {binary : Binary} {facts : TypeFacts}
    (asks : rule.insertions ≠ []) (applies : rule.suppresses binary facts = true) :
    ∃ offsets, facts.inserted = some offsets ∧
      ∀ offset ∈ offsets, ∃ range ∈ rule.insertions, range.Covers facts.size offset := by
  simp only [TypeRule.suppresses, Bool.and_eq_true] at applies
  obtain ⟨⟨_, accepts⟩, _⟩ := applies
  rw [acceptsInsertions, List.isEmpty_eq_false_iff.mpr asks, Bool.false_or, Option.any_eq_true] at accepts
  obtain ⟨offsets, inserted, accepted⟩ := accepts
  rw [Bool.and_eq_true, List.all_eq_true] at accepted
  refine ⟨offsets, inserted, fun offset member => ?_⟩
  obtain ⟨range, isRange, contains⟩ := List.any_eq_true.mp (accepted.2 offset member)
  exact ⟨range, isRange, (range.contains_iff _ _).mp contains⟩

/-- The comparison of two graphs whose findings are hidden by the rules of a context. -/
def Context.comparing (context : Context) (first second : TypeGraph) : TypeComparison :=
  ⟨first, second, context.typeLabel?⟩

/-- If a rule that asks for inserted members applies to what a comparison returns, after any others, then
what is returned is hidden, and members were inserted and nothing else happened. Both types are complete
records, and the old one has grown into the new one. From the types of a member in both of them no path
leads to changes that does not come back to the two records. And all new members are in the ranges of
the rule. -/
theorem growsInto_of_suppresses {context : Context} {first second : TypeGraph}
    {calls : List (Nat × Nat × Reach)} {old new : Nat} {reach : Reach} {difference : TypeDifference}
    {rule : TypeRule}
    (returned : ((context.comparing first second).compare old new reach
      ((context.comparing first second).memoryAfter calls)).1 = some difference)
    (isRule : rule ∈ context.typeRules) (asks : rule.insertions ≠ [])
    (applies : rule.suppresses context.binary ((context.comparing first second).factsOf
      ⟨"", old, new, reach⟩ difference.finding.changes difference.inside) = true) :
    difference.isSuppressed = true ∧ ∃ oldRecord newRecord,
      first.node old = .record oldRecord ∧ second.node new = .record newRecord ∧
      oldRecord.GrowsInto newRecord ∧
      (∀ member ∈ oldRecord.members, ∀ counterpart,
        newRecord.member? member.name = some counterpart →
          ¬(context.comparing first second).Exposes (· ≠ (old, new))
            (member.type, counterpart.type)) ∧
      ∀ member ∈ newRecord.members, oldRecord.member? member.name = none →
        ∃ range ∈ rule.insertions, range.Covers oldRecord.size member.offset := by
  let comparison := context.comparing first second
  let part : TypePart := ⟨"", old, new, reach⟩
  have judged := (TypeComparison.foundFor_compare returned).judged
  obtain ⟨changes, label⟩ := TypeComparison.label_of_judge judged
  obtain ⟨offsets, inserted, ranged⟩ := TypeRule.insertions_of_suppresses asks applies
  obtain ⟨empty, growth, ⟨name, type, offset, added⟩, listed⟩ :=
    TypeComparison.insertedOffsets_eq_some inserted
  have addedLocally : .memberAdded name type offset ∈ first.localChanges second old new := by
    rw [changes] at added
    exact added
  obtain ⟨oldRecord, newRecord, oldNode, newNode, ofRecords⟩ :=
    TypeGraph.exists_records_of_memberAdded addedLocally
  replace changes : difference.finding.changes = first.recordChanges second oldRecord newRecord :=
    changes.trans ofRecords
  rw [changes] at growth added listed
  have grows : oldRecord.GrowsInto newRecord := TypeGraph.growsInto_of_all_isGrowth growth added
  refine ⟨?_, oldRecord, newRecord, oldNode, newNode, grows, ?_, ?_⟩
  · have found : (context.typeRules.find? fun rule => rule.suppresses context.binary
        (comparison.factsOf part difference.finding.changes difference.inside)).isSome = true :=
      List.find?_isSome.mpr ⟨rule, isRule, applies⟩
    rw [TypeDifference.isSuppressed, Finding.isSuppressed, label]
    exact (Option.isSome_map ..).trans found
  · intro member inside counterpart named
    exact TypeComparison.quietInside_of_compare returned empty _
      (TypeComparison.steps_of_member oldNode newNode grows inside named)
  · intro member inside lacks
    have size : (comparison.factsOf part difference.finding.changes difference.inside).size =
        oldRecord.size := by
      change (first.sizeOf? old).toOption.join.getD 0 = _
      rw [TypeGraph.sizeOf?_of_record oldNode]
      rfl
    have isAdded : .memberAdded member.name (second.name member.type) member.offset ∈
        first.recordChanges second oldRecord newRecord :=
      TypeGraph.memberAdded_mem_recordChanges_iff.mpr
        ⟨(TypeGraph.memberAdded_mem_recordChanges_iff.mp added).1,
          TypeGraph.memberAdded_mem_memberChanges_iff.mpr ⟨member, inside, lacks, rfl, rfl, rfl⟩⟩
    rw [← size]
    exact ranged _ (listed _ _ _ isAdded)

open Difference (listTypes rankRule)

/-- The rule that hides members at the end of the first of two structs that point at each other. -/
def rankContext : Context := ⟨[.aboutType rankRule], ⟨"", "libnodes.so"⟩⟩

/-- The comparison of the two structs with them once the first one has a member more. -/
def rankComparison : TypeComparison :=
  rankContext.comparing { nodes := listTypes false false } { nodes := listTypes false true }

/-- The member at the end is hidden, though the struct points at the other one and that back at it, and
though the other one was compared before. -/
theorem growsInto_of_suppresses_rank :
    ∃ difference, (rankComparison.compare 2 2 .direct
        (rankComparison.memoryAfter [(4, 4, .direct)])).1 = some difference ∧
      rankRule.suppresses rankContext.binary (rankComparison.factsOf ⟨"", 2, 2, .direct⟩
        difference.finding.changes difference.inside) = true ∧
      difference.isSuppressed = true ∧ ∃ old new,
        rankComparison.first.node 2 = .record old ∧ rankComparison.second.node 2 = .record new ∧
        old.GrowsInto new := by
  have found : (rankComparison.compare 2 2 .direct
      (rankComparison.memoryAfter [(4, 4, .direct)])).1.any (fun difference =>
        rankRule.suppresses rankContext.binary (rankComparison.factsOf ⟨"", 2, 2, .direct⟩
          difference.finding.changes difference.inside)) = true := by
    have isRecord : rankComparison.first.node 2 = .record _ := rfl
    simp only [TypeComparison.factsOf, TypeGraph.sizeOf?_of_record isRecord]
    decide +kernel
  obtain ⟨difference, returned, applies⟩ := (Option.any_eq_true _ _).mp found
  obtain ⟨hidden, old, new, oldNode, newNode, grows, _⟩ :=
    growsInto_of_suppresses returned List.mem_cons_self (List.cons_ne_nil _ _) applies
  exact ⟨difference, returned, applies, hidden, old, new, oldNode, newNode, grows⟩

end Suppression

end Abiscope
