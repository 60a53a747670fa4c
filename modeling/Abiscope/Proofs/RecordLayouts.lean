import Abiscope.Proofs.MatchingTypes
import Mathlib.Data.List.Nodup

/-!
# Layouts of records that do not differ

The layout of a record is what stands where: the names of its members with their offsets. Two complete
records that are found not to differ should have one layout. What is found is less, since members are
matched by name, with the first member of that name: every old member lies where the first new one of
its name lies, and every new member has a name that an old one has.

So the layouts are the same exactly if the records have the same names, each as often in one as in the
other, and the new members of one name lie at one offset. Both hold when no name is repeated. Otherwise
a member of a repeated name can be inserted or removed, or lie elsewhere, without being found.
-/

namespace Abiscope

namespace Record

/-- What stands where in a record. -/
def layout (record : Record) : List (String × UInt64) :=
  record.members.map fun member => (member.name, member.offset)

/-- The names of the members. -/
def names (record : Record) : List String := record.members.map Member.name

/-- As many members in both records, and under each name as many at each offset. -/
structure SameLayout (old new : Record) : Prop where
  count : old.members.length = new.members.length
  members : old.layout.Perm new.layout

/-- Members of one name lie at one offset. -/
def NamesakesTogether (record : Record) : Prop :=
  ∀ one ∈ record.members, ∀ other ∈ record.members, one.name = other.name → one.offset = other.offset

/-- The offset of the member that a name stands for. -/
def offsetOf (record : Record) (name : String) : UInt64 :=
  ((record.member? name).map Member.offset).getD 0

/-- A layout in which each name has its offset. -/
theorem layout_eq_map_names {record : Record} {offset : String → UInt64}
    (placed : ∀ member ∈ record.members, member.offset = offset member.name) :
    record.layout = record.names.map fun name => (name, offset name) := by
  rw [layout, names, List.map_map]
  refine List.map_congr_left fun member inside => ?_
  rw [placed member inside]
  rfl

/-- Every member of a record whose namesakes lie together lies at the offset of its name. -/
theorem NamesakesTogether.offset_eq {record : Record} (together : record.NamesakesTogether)
    {member : Member} (inside : member ∈ record.members) :
    member.offset = record.offsetOf member.name := by
  obtain ⟨found, named⟩ := exists_member? inside
  obtain ⟨foundInside, sameName⟩ := member?_eq_some named
  rw [offsetOf, named]
  exact together member inside found foundInside sameName.symm

variable {old new : Record}

/-- The old members of a record lie at the offsets of their names in one that it matches. -/
theorem Matches.offset_eq (agree : old.Matches new) (complete : old.isDeclaration = false)
    {member : Member} (inside : member ∈ old.members) : member.offset = new.offsetOf member.name := by
  obtain ⟨counterpart, named, offset⟩ := agree.kept complete member inside
  rw [offsetOf, named]
  exact offset

/-- Records that match have one layout exactly if they have the same names equally often and the new
members of one name lie at one offset.

Proof: in both records each name has the offset that it stands for in the new one. Conversely what
lies at an offset in the new record lies there in the old one, so at the offset of its name. -/
theorem Matches.sameLayout_iff (agree : old.Matches new) (complete : old.isDeclaration = false) :
    old.SameLayout new ↔ old.names.Perm new.names ∧ new.NamesakesTogether := by
  constructor
  · rintro ⟨_, members⟩
    have namesOf (record : Record) : record.names = record.layout.map Prod.fst := by
      rw [layout, names, List.map_map]
      rfl
    refine ⟨?_, ?_⟩
    · rw [namesOf, namesOf]
      exact members.map Prod.fst
    · have placed (member : Member) (inside : member ∈ new.members) :
          member.offset = new.offsetOf member.name := by
        have there : (member.name, member.offset) ∈ old.layout :=
          members.mem_iff.mpr (List.mem_map_of_mem inside)
        obtain ⟨before, beforeInside, same⟩ := List.mem_map.mp there
        obtain ⟨sameName, sameOffset⟩ := Prod.mk.inj same
        rw [← sameOffset, ← sameName]
        exact agree.offset_eq complete beforeInside
      intro one oneInside other otherInside sameName
      rw [placed one oneInside, placed other otherInside, sameName]
  · rintro ⟨names, together⟩
    have members : old.layout.Perm new.layout := by
      rw [layout_eq_map_names fun member inside => agree.offset_eq complete inside,
        layout_eq_map_names fun member inside => together.offset_eq inside]
      exact names.map _
    refine ⟨?_, members⟩
    simpa only [layout, List.length_map] using members.length_eq

/-- Records that match and repeat no names have one layout. -/
theorem Matches.sameLayout_of_nodup (agree : old.Matches new) (complete : old.isDeclaration = false)
    (oldDistinct : old.names.Nodup) (newDistinct : new.names.Nodup) : old.SameLayout new := by
  refine (agree.sameLayout_iff complete).mpr
    ⟨(List.perm_ext_iff_of_nodup oldDistinct newDistinct).mpr fun name => ?_, ?_⟩
  · constructor
    · intro named
      obtain ⟨member, inside, rfl⟩ := List.mem_map.mp named
      obtain ⟨counterpart, found, _⟩ := agree.kept complete member inside
      obtain ⟨counterpartInside, sameName⟩ := member?_eq_some found
      exact List.mem_map.mpr ⟨counterpart, counterpartInside, sameName⟩
    · intro named
      obtain ⟨member, inside, rfl⟩ := List.mem_map.mp named
      obtain ⟨counterpart, found⟩ := agree.added complete member inside
      obtain ⟨counterpartInside, sameName⟩ := member?_eq_some found
      exact List.mem_map.mpr ⟨counterpart, counterpartInside, sameName⟩
  · intro one oneInside other otherInside sameName
    rw [List.inj_on_of_nodup_map newDistinct oneInside otherInside sameName]

end Record

namespace TypeComparison

/-- Two complete records that are found not to differ, after any comparisons, have one layout exactly if
they have the same names equally often and the new members of one name lie at one offset. -/
theorem sameLayout_iff_of_compare_eq_none (comparison : TypeComparison)
    (calls : List (Nat × Nat × Reach)) (first second : Nat) (reach : Reach) {old new : Record}
    (oldNode : comparison.first.node first = .record old)
    (newNode : comparison.second.node second = .record new) (complete : old.isDeclaration = false)
    (silent : (comparison.compare first second reach (comparison.memoryAfter calls)).1 = none) :
    old.SameLayout new ↔ old.names.Perm new.names ∧ new.NamesakesTogether := by
  have unchanged : comparison.Unchanged (first, second) := by
    have found := (comparison.decides_compare first second reach _ ⟨calls, rfl⟩).1
    rw [silent] at found
    exact found.mp rfl
  have agree : old.Matches new := by
    have nodes := unchanged.nodes
    rw [oldNode, newNode] at nodes
    cases nodes with
    | record agree => exact agree
  exact agree.sameLayout_iff complete

/-- A record of 64 bits with members that are integers. -/
def cell (members : List (String × UInt64)) : Record where
  kind := .structRecord
  name := "cell"
  size := 64
  members := members.map fun entry => ⟨entry.1, 1, entry.2⟩

/-- Two records, each in a graph of its own. -/
def holding (old new : Record) : TypeComparison where
  first := { nodes := #[.void, .builtin "int" 32, .record old] }
  second := { nodes := #[.void, .builtin "int" 32, .record new] }
  label? _ := none

/-- Two members without a name share an offset before a third one. -/
def unnamedFirst : Record := cell [("", 0), ("", 0), ("count", 32)]

/-- The same members, declared in another order. -/
def unnamedLast : Record := cell [("count", 32), ("", 0), ("", 0)]

/-- The order of members does not matter, and neither do namesakes at one offset. -/
theorem sameLayout_iff_of_compare_eq_none_unnamed :
    (holding unnamedFirst unnamedLast).first.node 2 = .record unnamedFirst ∧
      (holding unnamedFirst unnamedLast).second.node 2 = .record unnamedLast ∧
      unnamedFirst.isDeclaration = false ∧
      ((holding unnamedFirst unnamedLast).compare 2 2 .direct
        ((holding unnamedFirst unnamedLast).memoryAfter [(1, 1, .pointer)])).1 = none ∧
      (unnamedFirst.SameLayout unnamedLast ↔
        unnamedFirst.names.Perm unnamedLast.names ∧ unnamedLast.NamesakesTogether) := by
  have silent : ((holding unnamedFirst unnamedLast).compare 2 2 .direct
      ((holding unnamedFirst unnamedLast).memoryAfter [(1, 1, .pointer)])).1 = none := by decide +kernel
  exact ⟨rfl, rfl, rfl, silent,
    sameLayout_iff_of_compare_eq_none _ [(1, 1, .pointer)] 2 2 .direct rfl rfl rfl silent⟩

/-- A second member without a name is inserted into free room of a record, and not found. -/
theorem insertedMember_silent :
    (cell [("", 0)]).isDeclaration = false ∧ (cell [("", 0), ("", 32)]).isDeclaration = false ∧
      ((holding (cell [("", 0)]) (cell [("", 0), ("", 32)])).compare 2 2 .direct ∅).1 = none ∧
      ¬(cell [("", 0)]).SameLayout (cell [("", 0), ("", 32)]) := by
  refine ⟨rfl, rfl, by decide +kernel, fun same => ?_⟩
  have count := same.count
  contradiction

end TypeComparison

end Abiscope
