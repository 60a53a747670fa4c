import Abiscope.Proofs.UnchangedDeclarations

/-!
# Types that match

Two types match if they have no changes apart from those of the types inside them. Members are matched by
name, with the first member of that name, so a record with several members of one name matches only what
has that name at the offset of all of them. Such a record need not match itself.

Types that do not differ match, and so does all that their comparison leads to. If two types do not differ
from a third one, they do not differ from each other: what each of them leads to matches what the third
one leads to. In particular, a type that does not differ from some type at all does not differ from
itself.
-/

namespace Abiscope

/-! ## Matching nodes -/

/-- What is there only if two values differ is not there exactly if they are equal. -/
theorem TypeChange.ifDiffer_eq_nil_iff {α : Type} [BEq α] [LawfulBEq α] (old new : α)
    (change : α → α → TypeChange) : TypeChange.ifDiffer old new change = [] ↔ old = new := by
  by_cases same : old = new
  · simp only [ifDiffer, same, beq_self_eq_true, if_true]
  · simp only [ifDiffer, same, beq_eq_false_iff_ne.mpr same, Bool.false_eq_true, if_false, reduceCtorEq]

namespace Record

/-- The member that the name of a member stands for has this name. -/
theorem member?_eq_some {record : Record} {name : String} {found : Member}
    (named : record.member? name = some found) : found ∈ record.members ∧ found.name = name := by
  have same := List.find?_some named
  exact ⟨List.mem_of_find?_eq_some named, beq_iff_eq.mp same⟩

/-- The name of a member stands for some member. -/
theorem exists_member? {record : Record} {member : Member} (inside : member ∈ record.members) :
    ∃ found, record.member? member.name = some found := by
  rw [← Option.isSome_iff_exists, member?, List.find?_isSome]
  exact ⟨member, inside, beq_self_eq_true _⟩

/-- A record matches another one, the types of members aside. -/
structure Matches (old new : Record) : Prop where
  kind : old.kind = new.kind
  name : old.name = new.name
  isDeclaration : old.isDeclaration = new.isDeclaration
  size : old.isDeclaration = false → old.size = new.size
  kept : old.isDeclaration = false → ∀ member ∈ old.members,
    ∃ counterpart, new.member? member.name = some counterpart ∧ member.offset = counterpart.offset
  added : old.isDeclaration = false → ∀ member ∈ new.members,
    ∃ counterpart, old.member? member.name = some counterpart

/-- Of two records that match, both are complete if the old one is. -/
theorem Matches.bothComplete {old new : Record} (agree : old.Matches new)
    (complete : old.isDeclaration = false) : old.bothComplete new = true := by
  rw [Record.bothComplete, ← agree.isDeclaration, complete]
  rfl

/-- Records that match a third one match each other. -/
theorem Matches.of_shared {one other third : Record} (left : one.Matches third)
    (right : other.Matches third) : one.Matches other := by
  have complete (known : one.isDeclaration = false) : other.isDeclaration = false := by
    rw [right.isDeclaration, ← left.isDeclaration, known]
  refine ⟨left.kind.trans right.kind.symm, left.name.trans right.name.symm,
    left.isDeclaration.trans right.isDeclaration.symm,
    fun known => (left.size known).trans (right.size (complete known)).symm, ?_, ?_⟩
  · intro known member inside
    obtain ⟨shared, found, offset⟩ := left.kept known member inside
    obtain ⟨sharedInside, sameName⟩ := member?_eq_some found
    obtain ⟨counterpart, named⟩ := right.added (complete known) shared sharedInside
    obtain ⟨counterpartInside, itsName⟩ := member?_eq_some named
    obtain ⟨again, foundAgain, itsOffset⟩ :=
      right.kept (complete known) counterpart counterpartInside
    rw [itsName, sameName, found, Option.some_inj] at foundAgain
    rw [sameName] at named
    exact ⟨counterpart, named, by rw [offset, foundAgain, itsOffset]⟩
  · intro known member inside
    obtain ⟨shared, found, _⟩ := right.kept (complete known) member inside
    obtain ⟨sharedInside, sameName⟩ := member?_eq_some found
    obtain ⟨counterpart, named⟩ := left.added known shared sharedInside
    exact ⟨counterpart, sameName ▸ named⟩

end Record

namespace Enumeration

/-- The enumerator that a name stands for has this name. -/
theorem enumerator?_eq_some {enumeration : Enumeration} {name : String} {found : Enumerator}
    (named : enumeration.enumerator? name = some found) :
    found ∈ enumeration.enumerators ∧ found.name = name := by
  have same := List.find?_some named
  exact ⟨List.mem_of_find?_eq_some named, beq_iff_eq.mp same⟩

/-- The name of an enumerator stands for some enumerator. -/
theorem exists_enumerator? {enumeration : Enumeration} {enumerator : Enumerator}
    (inside : enumerator ∈ enumeration.enumerators) :
    ∃ found, enumeration.enumerator? enumerator.name = some found := by
  rw [← Option.isSome_iff_exists, enumerator?, List.find?_isSome]
  exact ⟨enumerator, inside, beq_self_eq_true _⟩

/-- An enumeration matches another one. -/
structure Matches (old new : Enumeration) : Prop where
  name : old.name = new.name
  size : old.size = new.size
  kept : ∀ enumerator ∈ old.enumerators, ∃ counterpart,
    new.enumerator? enumerator.name = some counterpart ∧ enumerator.value = counterpart.value
  added : ∀ enumerator ∈ new.enumerators, ∃ counterpart,
    old.enumerator? enumerator.name = some counterpart

/-- Enumerations that match a third one match each other. -/
theorem Matches.of_shared {one other third : Enumeration} (left : one.Matches third)
    (right : other.Matches third) : one.Matches other := by
  refine ⟨left.name.trans right.name.symm, left.size.trans right.size.symm, ?_, ?_⟩
  · intro enumerator inside
    obtain ⟨shared, found, value⟩ := left.kept enumerator inside
    obtain ⟨sharedInside, sameName⟩ := enumerator?_eq_some found
    obtain ⟨counterpart, named⟩ := right.added shared sharedInside
    obtain ⟨counterpartInside, itsName⟩ := enumerator?_eq_some named
    obtain ⟨again, foundAgain, itsValue⟩ := right.kept counterpart counterpartInside
    rw [itsName, sameName, found, Option.some_inj] at foundAgain
    rw [sameName] at named
    exact ⟨counterpart, named, by rw [value, foundAgain, itsValue]⟩
  · intro enumerator inside
    obtain ⟨shared, found, _⟩ := right.kept enumerator inside
    obtain ⟨sharedInside, sameName⟩ := enumerator?_eq_some found
    obtain ⟨counterpart, named⟩ := left.added shared sharedInside
    exact ⟨counterpart, sameName ▸ named⟩

end Enumeration

namespace TypeGraph

/-- Members have no changes exactly if each has a counterpart at its offset, and none was added. -/
theorem memberChanges_eq_nil_iff (first second : TypeGraph) (old new : Record) :
    memberChanges first second old new = [] ↔
      (∀ member ∈ old.members, ∃ counterpart, new.member? member.name = some counterpart ∧
        member.offset = counterpart.offset) ∧
      ∀ member ∈ new.members, ∃ counterpart, old.member? member.name = some counterpart := by
  rw [memberChanges, List.append_eq_nil_iff, List.flatMap_eq_nil_iff, List.filterMap_eq_nil_iff]
  refine Iff.and (forall₂_congr fun member _ => ?_) (forall₂_congr fun member _ => ?_)
  · cases new.member? member.name with
    | none => simp only [reduceCtorEq, false_and, exists_false]
    | some counterpart =>
      simp only [TypeChange.ifDiffer_eq_nil_iff, Option.some_inj, exists_eq_left']
  · cases old.member? member.name with
    | none => simp only [Option.isNone_none, if_true, reduceCtorEq, exists_false]
    | some counterpart =>
      simp only [Option.isNone_some, Bool.false_eq_true, if_false, Option.some_inj, exists_eq']

/-- Records have no changes exactly if they match. -/
theorem recordChanges_eq_nil_iff (first second : TypeGraph) (old new : Record) :
    recordChanges first second old new = [] ↔ old.Matches new := by
  rw [recordChanges, List.append_eq_nil_iff, List.append_eq_nil_iff, List.append_eq_nil_iff,
    TypeChange.ifDiffer_eq_nil_iff, TypeChange.ifDiffer_eq_nil_iff, TypeChange.ifDiffer_eq_nil_iff]
  constructor
  · rintro ⟨⟨⟨kind, name⟩, isDeclaration⟩, inside⟩
    have layout (complete : old.isDeclaration = false) :
        old.size = new.size ∧ memberChanges first second old new = [] := by
      have both : old.bothComplete new = true := by
        rw [Record.bothComplete, ← isDeclaration, complete]
        rfl
      rwa [if_pos both, List.append_eq_nil_iff, TypeChange.ifDiffer_eq_nil_iff] at inside
    have members complete := (memberChanges_eq_nil_iff first second old new).mp (layout complete).2
    exact ⟨kind, name, isDeclaration, fun complete => (layout complete).1,
      fun complete => (members complete).1, fun complete => (members complete).2⟩
  · intro agree
    refine ⟨⟨⟨agree.kind, agree.name⟩, agree.isDeclaration⟩, ?_⟩
    split
    · next both =>
      rw [Record.bothComplete, Bool.and_eq_true, Bool.not_eq_true'] at both
      rw [List.append_eq_nil_iff, TypeChange.ifDiffer_eq_nil_iff, memberChanges_eq_nil_iff]
      exact ⟨agree.size both.1, agree.kept both.1, agree.added both.1⟩
    · rfl

/-- Enumerators have no changes exactly if each has a counterpart of its value, and none was added. -/
theorem enumeratorChanges_eq_nil_iff (old new : Enumeration) :
    enumeratorChanges old new = [] ↔
      (∀ enumerator ∈ old.enumerators, ∃ counterpart,
        new.enumerator? enumerator.name = some counterpart ∧
          enumerator.value = counterpart.value) ∧
      ∀ enumerator ∈ new.enumerators, ∃ counterpart,
        old.enumerator? enumerator.name = some counterpart := by
  rw [enumeratorChanges, List.append_eq_nil_iff, List.flatMap_eq_nil_iff, List.filterMap_eq_nil_iff]
  refine Iff.and (forall₂_congr fun enumerator _ => ?_) (forall₂_congr fun enumerator _ => ?_)
  · cases new.enumerator? enumerator.name with
    | none => simp only [reduceCtorEq, false_and, exists_false]
    | some counterpart =>
      simp only [TypeChange.ifDiffer_eq_nil_iff, Option.some_inj, exists_eq_left']
  · cases old.enumerator? enumerator.name with
    | none => simp only [Option.isNone_none, if_true, reduceCtorEq, exists_false]
    | some counterpart =>
      simp only [Option.isNone_some, Bool.false_eq_true, if_false, Option.some_inj, exists_eq']

end TypeGraph

/-- A type matches another one: the two have no changes, apart from those of the types inside them. -/
inductive TypeNode.Matches : TypeNode → TypeNode → Prop where
  | void : Matches .void .void
  | builtin (name : String) (size : UInt64) : Matches (.builtin name size) (.builtin name size)
  | pointer (old new : Nat) : Matches (.pointer old) (.pointer new)
  | reference (old new : Nat) (isRvalue : Bool) :
    Matches (.reference old isRvalue) (.reference new isRvalue)
  | qualified (old new : Nat) (qualifiers : Qualifiers) :
    Matches (.qualified old qualifiers) (.qualified new qualifiers)
  | typeAlias (name : String) (old new : Nat) (oldLocation newLocation : Option SourceLocation) :
    Matches (.typeAlias name old oldLocation) (.typeAlias name new newLocation)
  | array (old new : Nat) (count : Option UInt64) : Matches (.array old count) (.array new count)
  | record {old new : Record} (agree : old.Matches new) : Matches (.record old) (.record new)
  | enumeration {old new : Enumeration} (agree : old.Matches new) :
    Matches (.enumeration old) (.enumeration new)
  | function {old new : FunctionType} (count : old.parameters.length = new.parameters.length)
    (isVariadic : old.isVariadic = new.isVariadic) : Matches (.function old) (.function new)

namespace TypeComparison

variable {comparison : TypeComparison} {pair child : Nat × Nat}

/-- A pair has no changes of its own exactly if its types match. -/
theorem changesAt_eq_nil_iff (comparison : TypeComparison) (pair : Nat × Nat) :
    comparison.changesAt pair = [] ↔
      (comparison.first.node pair.1).Matches (comparison.second.node pair.2) := by
  rw [changesAt, TypeGraph.localChanges]
  generalize comparison.first.node pair.1 = old, comparison.second.node pair.2 = new
  cases old <;> cases new
  case void.void => exact ⟨fun _ => .void, fun _ => rfl⟩
  case pointer.pointer => exact ⟨fun _ => .pointer _ _, fun _ => rfl⟩
  case record.record old new =>
    rw [TypeGraph.recordChanges_eq_nil_iff]
    refine ⟨.record, fun agree => ?_⟩
    cases agree with
    | record agree => exact agree
  case enumeration.enumeration old new =>
    rw [List.append_eq_nil_iff, List.append_eq_nil_iff, TypeChange.ifDiffer_eq_nil_iff,
      TypeChange.ifDiffer_eq_nil_iff, TypeGraph.enumeratorChanges_eq_nil_iff]
    constructor
    · rintro ⟨⟨name, size⟩, kept, added⟩
      exact .enumeration ⟨name, size, kept, added⟩
    · intro agree
      cases agree with
      | enumeration agree => exact ⟨⟨agree.name, agree.size⟩, agree.kept, agree.added⟩
  case function.function old new =>
    rw [List.append_eq_nil_iff, TypeChange.ifDiffer_eq_nil_iff, TypeChange.ifDiffer_eq_nil_iff]
    refine ⟨fun same => .function same.1 same.2, fun agree => ?_⟩
    cases agree with
    | function count isVariadic => exact ⟨count, isVariadic⟩
  case builtin.builtin =>
    rw [List.append_eq_nil_iff, TypeChange.ifDiffer_eq_nil_iff, TypeChange.ifDiffer_eq_nil_iff]
    constructor
    · rintro ⟨rfl, rfl⟩
      exact .builtin _ _
    · intro agree
      cases agree
      exact ⟨rfl, rfl⟩
  -- Types of one sort that refer to others differ in at most one attribute.
  case reference.reference | qualified.qualified | typeAlias.typeAlias | array.array =>
    rw [TypeChange.ifDiffer_eq_nil_iff]
    constructor
    · rintro rfl
      constructor
    · intro agree
      cases agree
      rfl
  -- Types of two sorts differ in sort.
  all_goals
    refine ⟨fun changed => absurd changed (List.cons_ne_nil _ _), fun agree => ?_⟩
    cases agree

/-! ## Matching parts -/

/-- A pair of records leads to the types of each old member and its counterpart. -/
theorem mem_ofRecords_iff (old new : Record) (pair : Nat × Nat) :
    pair ∈ (TypePart.ofRecords old new .direct).map TypePart.pair ↔
      old.bothComplete new = true ∧ ∃ member ∈ old.members, ∃ counterpart,
        new.member? member.name = some counterpart ∧ (member.type, counterpart.type) = pair := by
  rw [TypePart.ofRecords]
  split
  · next both =>
    simp only [both, true_and, List.map_filterMap, List.mem_filterMap, Option.map_map,
      Option.map_eq_some_iff, Function.comp_apply, TypePart.pair]
  · next partly => simp only [partly, List.map_nil, List.not_mem_nil, Bool.false_eq_true, false_and]

/-- A pair of function types leads to the pair of their results and to those of their parameters. -/
theorem mem_ofFunctions_iff (old new : FunctionType) (pair : Nat × Nat) :
    pair ∈ (TypePart.ofFunctions old new .direct).map TypePart.pair ↔
      pair = (old.result, new.result) ∨ pair ∈ old.parameters.zip new.parameters := by
  have parameters := List.zipIdx_map_fst 0 (old.parameters.zip new.parameters)
  rw [TypePart.ofFunctions, List.map_cons, List.mem_cons, List.map_map]
  nth_rewrite 2 [← parameters]
  rfl

/-- Records that match lead to the types of an old member and its counterpart. -/
theorem mem_ofRecords_of_matches {old new : Record} (agree : old.Matches new)
    (complete : old.isDeclaration = false) {member counterpart : Member}
    (inside : member ∈ old.members) (named : new.member? member.name = some counterpart) :
    (member.type, counterpart.type) ∈ (TypePart.ofRecords old new .direct).map TypePart.pair :=
  (mem_ofRecords_iff _ _ _).mpr
    ⟨agree.bothComplete complete, member, inside, counterpart, named, rfl⟩

/-- Function types lead to the types of parameters at one index. -/
theorem mem_ofFunctions_of_lt {old new : FunctionType} {index : Nat}
    (inside : index < old.parameters.length) (insideToo : index < new.parameters.length) :
    (old.parameters[index], new.parameters[index]) ∈
      (TypePart.ofFunctions old new .direct).map TypePart.pair := by
  refine (mem_ofFunctions_iff _ _ _).mpr (Or.inr (List.mem_iff_getElem.mpr ?_))
  have both : index < (old.parameters.zip new.parameters).length := by
    rw [List.length_zip]
    omega
  exact ⟨index, both, List.getElem_zip⟩

/-- What two types lead to that match a third one, is led to by the third one too, in the place of
each. -/
theorem exists_shared_part {one other third : TypeNode} (left : one.Matches third)
    (right : other.Matches third) {pair : Nat × Nat}
    (part : pair ∈ (TypePart.ofNodes one other .direct).map TypePart.pair) :
    ∃ shared, (pair.1, shared) ∈ (TypePart.ofNodes one third .direct).map TypePart.pair ∧
      (pair.2, shared) ∈ (TypePart.ofNodes other third .direct).map TypePart.pair := by
  cases left with
  | void | builtin | enumeration _ => cases right; cases part
  | pointer _ third | reference _ third _ | qualified _ third _ | typeAlias _ _ third _ _
  | array _ third _ =>
    cases right
    cases List.mem_singleton.mp part
    exact ⟨third, List.mem_singleton_self _, List.mem_singleton_self _⟩
  | @record one third left =>
    cases right with
    | @record other _ right =>
    obtain ⟨both, member, inside, counterpart, named, rfl⟩ := (mem_ofRecords_iff _ _ _).mp part
    rw [Record.bothComplete, Bool.and_eq_true, Bool.not_eq_true', Bool.not_eq_true'] at both
    obtain ⟨shared, found, _⟩ := left.kept both.1 member inside
    obtain ⟨counterpartInside, sameName⟩ := Record.member?_eq_some named
    exact ⟨shared.type, mem_ofRecords_of_matches left both.1 inside found,
      mem_ofRecords_of_matches right both.2 counterpartInside (sameName ▸ found)⟩
  | @function one third count _ =>
    cases right with
    | @function other _ otherCount _ =>
    rcases (mem_ofFunctions_iff _ _ _).mp part with rfl | parameters
    · exact ⟨third.result, List.mem_cons_self, List.mem_cons_self⟩
    · obtain ⟨index, inside, rfl⟩ := List.getElem_of_mem parameters
      rw [List.length_zip] at inside
      have bound : index < third.parameters.length := by omega
      rw [List.getElem_zip]
      exact ⟨third.parameters[index], mem_ofFunctions_of_lt (by omega) bound,
        mem_ofFunctions_of_lt (by omega) bound⟩

/-- Types that match a third one match each other. -/
theorem matches_of_shared {one other third : TypeNode} (left : one.Matches third)
    (right : other.Matches third) : one.Matches other := by
  cases left with
  | void => cases right; exact .void
  | builtin => cases right; exact .builtin _ _
  | pointer => cases right; exact .pointer _ _
  | reference => cases right; exact .reference _ _ _
  | qualified => cases right; exact .qualified _ _ _
  | typeAlias => cases right; exact .typeAlias _ _ _ _ _
  | array => cases right; exact .array _ _ _
  | record left =>
    cases right with
    | record right => exact .record (left.of_shared right)
  | enumeration left =>
    cases right with
    | enumeration right => exact .enumeration (left.of_shared right)
  | function count isVariadic =>
    cases right with
    | function otherCount otherVariadic =>
      exact .function (count.trans otherCount.symm) (isVariadic.trans otherVariadic.symm)

/-! ## Types that do not differ -/

/-- Nothing has changed behind pairs that match and lead only to pairs of their own kind. -/
theorem unchanged_of_invariant (holds : Nat × Nat → Prop)
    (agree : ∀ pair, holds pair → comparison.changesAt pair = [])
    (kept : ∀ pair child, holds pair → comparison.Steps pair child → holds child) (start : holds pair) :
    comparison.Unchanged pair := by
  intro other path
  refine agree other ?_
  induction path with
  | refl => exact start
  | tail _ step inductionHypothesis => exact kept _ _ inductionHypothesis step

/-- Types behind which nothing has changed match. -/
theorem Unchanged.nodes {old new : Nat} (unchanged : comparison.Unchanged (old, new)) :
    (comparison.first.node old).Matches (comparison.second.node new) :=
  (changesAt_eq_nil_iff comparison (old, new)).mp (unchanged _ .refl)

/-- A pair behind which nothing has changed leads to such pairs only. -/
theorem Unchanged.step (unchanged : comparison.Unchanged pair) (step : comparison.Steps pair child) :
    comparison.Unchanged child :=
  fun other path => unchanged other (.head step path)

/-- The comparison of the types of the first graph with each other. -/
def withinFirst (comparison : TypeComparison) : TypeComparison :=
  { comparison with second := comparison.first }

/-- Two types that do not differ from a third one do not differ from each other.

Proof: what two types lead to that match a third one, is matched by what the third one leads to. So there
is a third type beside each pair that the comparison of the two leads to. -/
theorem Unchanged.of_shared {one other third : Nat} (left : comparison.Unchanged (one, third))
    (right : comparison.Unchanged (other, third)) :
    comparison.withinFirst.Unchanged (one, other) := by
  refine unchanged_of_invariant (fun pair => ∃ shared,
    comparison.Unchanged (pair.1, shared) ∧ comparison.Unchanged (pair.2, shared)) ?_ ?_
      ⟨third, left, right⟩
  · rintro pair ⟨shared, left, right⟩
    rw [changesAt_eq_nil_iff]
    exact matches_of_shared left.nodes right.nodes
  · rintro pair child ⟨shared, left, right⟩ step
    obtain ⟨inner, leftStep, rightStep⟩ := exists_shared_part left.nodes right.nodes step
    exact ⟨inner, left.step leftStep, right.step rightStep⟩

end TypeComparison

end Abiscope
