import Abiscope.Proofs.InsertedMembers
import Abiscope.Proofs.MirroredTypes
import Mathlib.Logic.Function.Basic

/-!
# Changes as edit scripts

The changes of two enumerations tell of each enumerator that was removed, has another value or was added, and
those of two complete records the same of members and their offsets. Where no type has a name twice, these
changes are an edit script: carried out one after the other, they turn what the old names stand for into what
the new ones stand for. Each change knows the old value, and no name is changed twice.

Two passes write the script. The first one goes through the old names and has an edit for those that stand
for something else now, the second one adds the names that stood for nothing. So the edits are those of all
names that differ, each once, and their order does not matter. This holds of all findings that any
comparison leads to, whatever was compared before.
-/

namespace Abiscope

/-- A name stands for another value than before, or begins or ceases to stand for one. -/
structure Edit (α : Type) where
  name : String
  old : Option α
  new : Option α
deriving DecidableEq, Repr

namespace Edit

variable {α : Type}

/-- Carries out an edit. -/
def apply (values : String → Option α) (edit : Edit α) : String → Option α :=
  Function.update values edit.name edit.new

/-- A list of edits turns what names stood for into what they stand for now. -/
structure Rebuilds (edits : List (Edit α)) (old new : String → Option α) : Prop where
  /-- The edits are carried out one after the other. -/
  applied : edits.foldl apply old = new
  /-- Every edit knows what its name stood for. -/
  knows : ∀ edit ∈ edits, edit.old = old edit.name
  /-- No edit is without effect. -/
  effective : ∀ edit ∈ edits, edit.old ≠ edit.new
  /-- No name is edited twice. -/
  once : (edits.map Edit.name).Nodup

/-- The edit of a name. -/
def between (old new : String → Option α) (name : String) : Edit α := ⟨name, old name, new name⟩

/-- When the edits of some names are carried out, these names stand for something new. -/
theorem foldl_apply_between (old new values : String → Option α) (names : List String) (name : String) :
    (names.map (between old new)).foldl apply values name =
      if name ∈ names then new name else values name := by
  induction names generalizing values with
  | nil => rfl
  | cons first rest inductionHypothesis =>
    rw [List.map_cons, List.foldl_cons, inductionHypothesis]
    by_cases later : name ∈ rest
    · rw [if_pos later, if_pos (List.mem_cons_of_mem first later)]
    · rw [if_neg later, apply]
      by_cases same : name = first
      · subst same
        rw [if_pos List.mem_cons_self]
        exact Function.update_self ..
      · rw [if_neg (not_or.mpr ⟨same, later⟩ ∘ List.mem_cons.mp)]
        exact Function.update_of_ne same ..

/-- The edits of the names that differ, in any order, turn the old into the new. -/
theorem rebuilds_between {old new : String → Option α} {names : List String} (distinct : names.Nodup)
    (differ : ∀ name, name ∈ names ↔ old name ≠ new name) :
    Rebuilds (names.map (between old new)) old new := by
  refine ⟨funext fun name => ?_, ?_, ?_, ?_⟩
  · rw [foldl_apply_between]
    split
    case isTrue => rfl
    case isFalse absent => exact not_not.mp (mt (differ name).mpr absent)
  · intro edit member
    obtain ⟨name, _, rfl⟩ := List.mem_map.mp member
    rfl
  · intro edit member
    obtain ⟨name, inside, rfl⟩ := List.mem_map.mp member
    exact (differ name).mp inside
  · rw [List.map_map]
    exact (List.map_id names).symm ▸ distinct

/-! ## Two passes -/

variable {ι : Type} (nameOf : ι → String) (valueOf : ι → α)

/-- The value that a name stands for among some items, which is that of the first item of the name. -/
def standing (items : List ι) (name : String) : Option α :=
  (items.find? fun item => nameOf item == name).map valueOf

/-- Names stand for nothing unless there are items of them. -/
theorem standing_eq_none_iff (items : List ι) (name : String) :
    standing nameOf valueOf items name = none ↔ name ∉ items.map nameOf := by
  simp [standing]

/-- Among items of distinct names, the name of every item stands for its value. -/
theorem standing_of_mem {items : List ι} (distinct : (items.map nameOf).Nodup) {item : ι}
    (member : item ∈ items) : standing nameOf valueOf items (nameOf item) = some (valueOf item) := by
  rw [standing, find?_key_of_mem distinct member, Option.map_some]

/-- A pass that makes at most one thing of each item makes it of those that it does not skip. -/
theorem flatMap_ite {β : Type} (counts : ι → Prop) [DecidablePred counts] (make : ι → β) (items : List ι) :
    (items.flatMap fun item => if counts item then [make item] else []) =
      (items.filter fun item => counts item).map make := by
  induction items with
  | nil => rfl
  | cons item rest inductionHypothesis =>
    rw [List.flatMap_cons, inductionHypothesis]
    by_cases one : counts item <;> simp [one]

variable [DecidableEq α] {old new : List ι}

/-- The names that are edited: the old ones that stand for something else now, and behind them the new ones
that stood for nothing. -/
def edited (old new : List ι) : List String :=
  ((old.map nameOf).filter fun name =>
      standing nameOf valueOf old name ≠ standing nameOf valueOf new name) ++
    (new.map nameOf).filter fun name => standing nameOf valueOf old name = none

/-- No name is edited twice, since what stood for nothing is no old name. -/
theorem nodup_edited (oldDistinct : (old.map nameOf).Nodup) (newDistinct : (new.map nameOf).Nodup) :
    (edited nameOf valueOf old new).Nodup := by
  refine (oldDistinct.filter _).append (newDistinct.filter _) fun name first second => ?_
  have named := (List.mem_filter.mp first).1
  have unnamed := of_decide_eq_true (List.mem_filter.mp second).2
  exact (standing_eq_none_iff nameOf valueOf old name).mp unnamed named

/-- The names that are edited are those that stand for something else now. -/
theorem mem_edited_iff (old new : List ι) (name : String) :
    name ∈ edited nameOf valueOf old new ↔
      standing nameOf valueOf old name ≠ standing nameOf valueOf new name := by
  have oldNamed := standing_eq_none_iff nameOf valueOf old name
  have newNamed := standing_eq_none_iff nameOf valueOf new name
  rw [edited, List.mem_append, List.mem_filter, List.mem_filter, decide_eq_true_eq, decide_eq_true_eq]
  by_cases named : name ∈ old.map nameOf
  · rw [oldNamed, and_iff_right named, or_iff_left fun added => added.2 named]
  · rw [oldNamed.mpr named, ne_comm, Ne, newNamed]
    simp [named]

/-- A pass over the old items edits each of them that has no counterpart of its name or one of another value,
and behind it a pass over the new items edits each of them that has no counterpart. Together they turn the
old into the new.

Proof: under distinct names every item is what its name stands for, so the passes edit the names that stand
for something else now, each once. -/
theorem rebuilds_of_passes (oldDistinct : (old.map nameOf).Nodup) (newDistinct : (new.map nameOf).Nodup)
    {kept added : ι → List (Edit α)}
    (removes : ∀ item, new.find? (fun other => nameOf other == nameOf item) = none →
      kept item = [⟨nameOf item, some (valueOf item), none⟩])
    (keeps : ∀ item other, new.find? (fun other => nameOf other == nameOf item) = some other →
      kept item = if valueOf item = valueOf other then []
        else [⟨nameOf item, some (valueOf item), some (valueOf other)⟩])
    (adds : ∀ item, added item =
      if (old.find? fun other => nameOf other == nameOf item).isNone then
        [⟨nameOf item, none, some (valueOf item)⟩]
      else []) :
    Rebuilds (old.flatMap kept ++ new.flatMap added) (standing nameOf valueOf old)
      (standing nameOf valueOf new) := by
  have first (item : ι) (inside : item ∈ old) : kept item =
      if standing nameOf valueOf old (nameOf item) ≠ standing nameOf valueOf new (nameOf item) then
        [between (standing nameOf valueOf old) (standing nameOf valueOf new) (nameOf item)]
      else [] := by
    rw [between, standing_of_mem nameOf valueOf oldDistinct inside, standing]
    cases found : new.find? fun other => nameOf other == nameOf item with
    | none => rw [removes item found, Option.map_none, if_pos (Option.some_ne_none _)]
    | some other => simp only [keeps item other found, Option.map_some, Ne, Option.some_inj, ite_not]
  have second (item : ι) (inside : item ∈ new) : added item =
      if standing nameOf valueOf old (nameOf item) = none then
        [between (standing nameOf valueOf old) (standing nameOf valueOf new) (nameOf item)]
      else [] := by
    rw [between, standing_of_mem nameOf valueOf newDistinct inside, adds, standing]
    cases old.find? fun other => nameOf other == nameOf item <;> rfl
  have script : old.flatMap kept ++ new.flatMap added = (edited nameOf valueOf old new).map
      (between (standing nameOf valueOf old) (standing nameOf valueOf new)) := by
    rw [edited, List.flatMap_congr first, List.flatMap_congr second, flatMap_ite, flatMap_ite,
      List.map_append, List.filter_map, List.filter_map, List.map_map, List.map_map]
    rfl
  rw [script]
  exact rebuilds_between (nodup_edited nameOf valueOf oldDistinct newDistinct)
    (mem_edited_iff nameOf valueOf old new)

end Edit

/-! ## What changes say -/

/-- The value that the name of an enumerator stands for. -/
def Enumeration.value? (enumeration : Enumeration) (name : String) : Option Int :=
  (enumeration.enumerator? name).map Enumerator.value

/-- The offset that the name of a member stands for. -/
def Record.offset? (record : Record) (name : String) : Option UInt64 :=
  (record.member? name).map Member.offset

namespace TypeChange

/-- What a change says about an enumerator. -/
def enumeratorEdit? : TypeChange → Option (Edit Int)
  | enumeratorRemoved name value => some ⟨name, some value, none⟩
  | enumeratorRevalued name old new => some ⟨name, some old, some new⟩
  | enumeratorAdded name value => some ⟨name, none, some value⟩
  | _ => none

/-- What a change says about where a member is. -/
def memberEdit? : TypeChange → Option (Edit UInt64)
  | memberRemoved name _ offset => some ⟨name, some offset, none⟩
  | memberMoved name old new => some ⟨name, some old, some new⟩
  | memberAdded name _ offset => some ⟨name, none, some offset⟩
  | _ => none

/-- What is told by a change that is there only if two values differ. -/
theorem filterMap_ifDiffer {α β : Type} [DecidableEq α] (tells? : TypeChange → Option β) (old new : α)
    (change : α → α → TypeChange) :
    (ifDiffer old new change).filterMap tells? =
      if old = new then [] else (tells? (change old new)).toList := by
  by_cases same : old = new
  · simp [ifDiffer, same]
  · rw [ifDiffer, if_neg (mt beq_iff_eq.mp same), if_neg same]
    cases told : tells? (change old new) <;> simp [told]

end TypeChange

namespace TypeGraph

/-- The changes of enumerators are an edit script. -/
theorem rebuilds_enumeratorChanges {old new : Enumeration}
    (oldDistinct : (old.enumerators.map Enumerator.name).Nodup)
    (newDistinct : (new.enumerators.map Enumerator.name).Nodup) :
    Edit.Rebuilds ((enumeratorChanges old new).filterMap TypeChange.enumeratorEdit?) old.value?
      new.value? := by
  rw [enumeratorChanges, List.filterMap_append, List.filterMap_flatMap, List.filterMap_filterMap,
    List.filterMap_eq_flatMap_toList]
  refine Edit.rebuilds_of_passes Enumerator.name Enumerator.value oldDistinct newDistinct ?_ ?_ ?_
  case refine_1 =>
    intro enumerator none
    rw [Enumeration.enumerator?, none]
    rfl
  case refine_2 =>
    intro enumerator counterpart found
    rw [Enumeration.enumerator?, found]
    exact TypeChange.filterMap_ifDiffer _ _ _ _
  case refine_3 =>
    intro enumerator
    rw [Enumeration.enumerator?]
    split <;> rfl

/-- The changes of members are an edit script. -/
theorem rebuilds_memberChanges (first second : TypeGraph) {old new : Record}
    (oldDistinct : (old.members.map Member.name).Nodup)
    (newDistinct : (new.members.map Member.name).Nodup) :
    Edit.Rebuilds ((memberChanges first second old new).filterMap TypeChange.memberEdit?) old.offset?
      new.offset? := by
  rw [memberChanges, List.filterMap_append, List.filterMap_flatMap, List.filterMap_filterMap,
    List.filterMap_eq_flatMap_toList]
  refine Edit.rebuilds_of_passes Member.name Member.offset oldDistinct newDistinct ?_ ?_ ?_
  case refine_1 =>
    intro member none
    rw [Record.member?, none]
    rfl
  case refine_2 =>
    intro member counterpart found
    rw [Record.member?, found]
    exact TypeChange.filterMap_ifDiffer _ _ _ _
  case refine_3 =>
    intro member
    rw [Record.member?]
    split <;> rfl

end TypeGraph

namespace TypeComparison

open TypeChange (ifDiffer)

/-- Changes of a pair of types are edit scripts of the enumerators or members, if these are known and have
names of their own. -/
structure RebuildsAt (comparison : TypeComparison) (pair : Nat × Nat) (changes : List TypeChange) : Prop where
  enumerators : ∀ old new, comparison.first.node pair.1 = .enumeration old →
    comparison.second.node pair.2 = .enumeration new →
    (old.enumerators.map Enumerator.name).Nodup → (new.enumerators.map Enumerator.name).Nodup →
    Edit.Rebuilds (changes.filterMap TypeChange.enumeratorEdit?) old.value? new.value?
  members : ∀ old new, comparison.first.node pair.1 = .record old →
    comparison.second.node pair.2 = .record new →
    old.isDeclaration = false → new.isDeclaration = false →
    (old.members.map Member.name).Nodup → (new.members.map Member.name).Nodup →
    Edit.Rebuilds (changes.filterMap TypeChange.memberEdit?) old.offset? new.offset?

/-- The changes of a pair of types are such edit scripts. -/
theorem rebuildsAt_changesAt (comparison : TypeComparison) (pair : Nat × Nat) :
    comparison.RebuildsAt pair (comparison.changesAt pair) := by
  constructor
  case enumerators =>
    intro old new oldNode newNode oldDistinct newDistinct
    have changes : comparison.changesAt pair =
        ifDiffer old.name new.name .renamed ++ ifDiffer old.size new.size .resized ++
          TypeGraph.enumeratorChanges old new := by
      rw [changesAt, TypeGraph.localChanges, oldNode, newNode]
    rw [changes, List.filterMap_append, List.filterMap_append, TypeChange.filterMap_ifDiffer,
      TypeChange.filterMap_ifDiffer]
    simpa [TypeChange.enumeratorEdit?] using TypeGraph.rebuilds_enumeratorChanges oldDistinct newDistinct
  case members =>
    intro old new oldNode newNode oldComplete newComplete oldDistinct newDistinct
    have changes : comparison.changesAt pair =
        TypeGraph.recordChanges comparison.first comparison.second old new := by
      rw [changesAt, TypeGraph.localChanges, oldNode, newNode]
    have complete : old.bothComplete new = true := by
      rw [Record.bothComplete, oldComplete, newComplete]
      rfl
    rw [changes, TypeGraph.recordChanges, if_pos complete]
    simp only [List.filterMap_append, TypeChange.filterMap_ifDiffer]
    simpa [TypeChange.memberEdit?] using
      TypeGraph.rebuilds_memberChanges comparison.first comparison.second oldDistinct newDistinct

/-! ## What comparisons find -/

variable {comparison : TypeComparison}

/-- All findings of a difference have the changes of their pairs. -/
theorem FoundFor.changes {part : TypePart} {difference : TypeDifference}
    (found : comparison.FoundFor part difference) :
    ∀ entry ∈ difference.located, entry.2.changes = comparison.changesAt entry.2.pair := by
  intro entry member
  obtain ⟨inner, inside, judged⟩ := found.exists_judged entry member
  exact (label_of_judge judged).1.trans (congrArg _ (judge_eq_some judged).2.1.symm)

/-- What is found for a pair of types has edit scripts. -/
structure FindsScripts (comparison : TypeComparison) (pair : Nat × Nat) (result : Option TypeDifference) :
    Prop where
  /-- If nothing is found, nothing is to be edited. -/
  silent : result = none → comparison.RebuildsAt pair []
  /-- What is found is first of all about the pair. -/
  own : ∀ difference, result = some difference → difference.finding.pair = pair
  /-- The changes of every finding, that of the pair and those below it, are edit scripts. -/
  scripts : ∀ difference, result = some difference →
    ∀ entry ∈ difference.located, comparison.RebuildsAt entry.2.pair entry.2.changes

/-- Whatever was compared before, the changes that a comparison finds rebuild the new enumerators and members
from the old ones.

Proof: every finding has the changes of its pair, and these are an edit script. If nothing is found, the
pair has no changes. -/
theorem findsScripts_compare (comparison : TypeComparison) (calls : List (Nat × Nat × Reach))
    (old new : Nat) (reach : Reach) :
    comparison.FindsScripts (old, new)
      (comparison.compare old new reach (comparison.memoryAfter calls)).1 := by
  constructor
  case silent =>
    intro silent
    have decides := (comparison.decides_compare old new reach _ ⟨calls, rfl⟩).1
    rw [silent] at decides
    have unchanged : comparison.changesAt (old, new) = [] := decides.mp rfl _ .refl
    rw [← unchanged]
    exact comparison.rebuildsAt_changesAt (old, new)
  case own => exact fun difference returned => (foundFor_compare returned).finding.1
  case scripts =>
    intro difference returned entry member
    rw [(foundFor_compare returned).changes entry member]
    exact comparison.rebuildsAt_changesAt entry.2.pair

/-- An enumeration of colours. -/
def colours (enumerators : List (String × Int)) : Enumeration where
  name := "colour"
  enumerators := enumerators.map fun entry => ⟨entry.1, entry.2⟩

-- One colour goes, one has another value and one comes, all of which was read in another order.
example :
    (TypeGraph.enumeratorChanges (colours [("red", 0), ("green", 1), ("blue", 2)])
        (colours [("black", 0), ("blue", 4), ("green", 1)])).filterMap TypeChange.enumeratorEdit? =
      [⟨"red", some 0, none⟩, ⟨"blue", some 2, some 4⟩, ⟨"black", none, some 0⟩] := by
  decide

end TypeComparison

end Abiscope
