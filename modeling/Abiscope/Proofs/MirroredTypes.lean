import Abiscope.Proofs.MatchingTypes
import Mathlib.Data.List.Nodup

/-!
# Types compared the other way round

Comparing two types walks over the members of the first one and looks each of them up by name in the
second one. Where every member of a record and every enumerator of an enumeration has a name of its own,
the look-ups are inverse to each other: types that match do so either way round, and the parts that they
lead to are the same pairs, turned round. So whether two types differ does not depend on which of them
comes first, on circles and through shared parts alike.

With namesakes this fails. Two members of one name are both held against the first of that name on the
other side, while only the first of them is ever a counterpart.
-/

namespace Abiscope

/-! ## Distinct names -/

/-- Every member of a record and every enumerator of an enumeration has a name of its own. -/
def TypeNode.NamesDistinct : TypeNode → Prop
  | .record declared => (declared.members.map Member.name).Nodup
  | .enumeration declared => (declared.enumerators.map Enumerator.name).Nodup
  | _ => True

instance : (node : TypeNode) → Decidable node.NamesDistinct
  | .record declared => inferInstanceAs (Decidable (declared.members.map Member.name).Nodup)
  | .enumeration declared =>
    inferInstanceAs (Decidable (declared.enumerators.map Enumerator.name).Nodup)
  | .void | .builtin .. | .pointer _ | .reference .. | .qualified .. | .typeAlias .. | .array ..
  | .function _ => isTrue trivial

/-- No type of a graph has two members, or two enumerators, of one name. -/
def TypeGraph.NamesDistinct (graph : TypeGraph) : Prop :=
  ∀ id < graph.size, (graph.node id).NamesDistinct

instance (graph : TypeGraph) : Decidable graph.NamesDistinct :=
  inferInstanceAs (Decidable (∀ id < graph.size, (graph.node id).NamesDistinct))

/-- What a number stands for has distinct names, also where it is no type of the graph. -/
theorem TypeGraph.NamesDistinct.node {graph : TypeGraph} (distinct : graph.NamesDistinct) (id : Nat) :
    (graph.node id).NamesDistinct := by
  by_cases inside : id < graph.size
  · exact distinct id inside
  · rw [node_of_size_le (Nat.le_of_not_lt inside)]
    trivial

section Counterparts

variable {α β : Type} {keyOf : α → String} {valueOf : α → β} {olds news : List α}

/-- Where keys are distinct, an element is what is found under its key. -/
theorem find?_key_of_mem (distinct : (news.map keyOf).Nodup) {item : α} (inside : item ∈ news) :
    news.find? (fun other => keyOf other == keyOf item) = some item := by
  cases found : news.find? fun other => keyOf other == keyOf item with
  | none => exact absurd (beq_self_eq_true _) (List.find?_eq_none.mp found item inside)
  | some other =>
    have sameKey := List.find?_some found
    rw [List.inj_on_of_nodup_map distinct (List.mem_of_find?_eq_some found) inside
      (beq_iff_eq.mp sameKey)]

/-- If all old elements have counterparts of their value and no new element lacks one, the same holds
the other way round, provided that the keys of the new elements are distinct.

Proof: a new element has a counterpart of its key, and the counterpart of that one can only be the new
element itself. -/
theorem counterparts_mirrored (distinct : (news.map keyOf).Nodup)
    (kept : ∀ item ∈ olds, ∃ counterpart,
      news.find? (fun other => keyOf other == keyOf item) = some counterpart ∧
        valueOf item = valueOf counterpart)
    (added : ∀ item ∈ news, ∃ counterpart,
      olds.find? (fun other => keyOf other == keyOf item) = some counterpart) :
    (∀ item ∈ news, ∃ counterpart,
        olds.find? (fun other => keyOf other == keyOf item) = some counterpart ∧
          valueOf item = valueOf counterpart) ∧
      ∀ item ∈ olds, ∃ counterpart,
        news.find? (fun other => keyOf other == keyOf item) = some counterpart := by
  constructor
  · intro item inside
    obtain ⟨counterpart, named⟩ := added item inside
    have sameKey := List.find?_some named
    obtain ⟨again, found, sameValue⟩ := kept counterpart (List.mem_of_find?_eq_some named)
    rw [beq_iff_eq.mp sameKey, find?_key_of_mem distinct inside, Option.some_inj] at found
    exact ⟨counterpart, named, by rw [sameValue, found]⟩
  · intro item inside
    obtain ⟨counterpart, named, _⟩ := kept item inside
    exact ⟨counterpart, named⟩

end Counterparts

/-- A record that another one matches matches that one too, if its own names are distinct. -/
theorem Record.Matches.mirrored {old new : Record} (agree : old.Matches new)
    (distinct : (new.members.map Member.name).Nodup) : new.Matches old := by
  have complete (known : new.isDeclaration = false) : old.isDeclaration = false :=
    agree.isDeclaration.trans known
  have members (known : new.isDeclaration = false) :=
    counterparts_mirrored distinct (agree.kept (complete known)) (agree.added (complete known))
  exact ⟨agree.kind.symm, agree.name.symm, agree.isDeclaration.symm,
    fun known => (agree.size (complete known)).symm, fun known => (members known).1,
    fun known => (members known).2⟩

/-- An enumeration that another one matches matches that one too, if its own names are distinct. -/
theorem Enumeration.Matches.mirrored {old new : Enumeration} (agree : old.Matches new)
    (distinct : (new.enumerators.map Enumerator.name).Nodup) : new.Matches old := by
  obtain ⟨kept, added⟩ := counterparts_mirrored distinct agree.kept agree.added
  exact ⟨agree.name.symm, agree.size.symm, kept, added⟩

namespace TypeNode

/-- A type that another one matches matches that one too, if its own names are distinct. -/
theorem Matches.mirrored {old new : TypeNode} (agree : old.Matches new)
    (distinct : new.NamesDistinct) : new.Matches old := by
  cases agree with
  | void => exact .void
  | builtin => exact .builtin _ _
  | pointer => exact .pointer _ _
  | reference => exact .reference _ _ _
  | qualified => exact .qualified _ _ _
  | typeAlias => exact .typeAlias _ _ _ _ _
  | array => exact .array _ _ _
  | record agree => exact .record (agree.mirrored distinct)
  | enumeration agree => exact .enumeration (agree.mirrored distinct)
  | function count isVariadic => exact .function count.symm isVariadic.symm

end TypeNode

namespace TypeComparison

/-! ## Mirrored parts -/

/-- What two types lead to that match, they lead to the other way round.

The members of the new record are looked up in the old one. As names are distinct, a member is in turn
what the name of its counterpart stands for. -/
theorem swap_mem_ofNodes {old new : TypeNode} (agree : old.Matches new)
    (distinct : new.NamesDistinct) {pair : Nat × Nat}
    (part : pair ∈ (TypePart.ofNodes new old .direct).map TypePart.pair) :
    pair.swap ∈ (TypePart.ofNodes old new .direct).map TypePart.pair := by
  cases agree with
  | void | builtin | enumeration _ => cases part
  | pointer | reference | qualified | typeAlias | array =>
    cases List.mem_singleton.mp part
    exact List.mem_singleton_self _
  | @record old new agree =>
    obtain ⟨both, member, inside, counterpart, named, rfl⟩ := (mem_ofRecords_iff _ _ _).mp part
    obtain ⟨counterpartInside, sameName⟩ := Record.member?_eq_some named
    rw [Record.bothComplete, Bool.and_eq_true, Bool.not_eq_true', Bool.not_eq_true'] at both
    have back : new.member? counterpart.name = some member := by
      rw [sameName]
      exact find?_key_of_mem distinct inside
    exact mem_ofRecords_of_matches agree both.2 counterpartInside back
  | @function old new count _ =>
    rcases (mem_ofFunctions_iff _ _ _).mp part with rfl | parameters
    · exact List.mem_cons_self
    · obtain ⟨index, inside, rfl⟩ := List.getElem_of_mem parameters
      rw [List.length_zip] at inside
      rw [List.getElem_zip]
      exact mem_ofFunctions_of_lt (by omega) (by omega)

/-! ## Mirrored comparisons -/

/-- Two comparisons of the same graphs, one the other way round. Labels are immaterial. -/
structure Mirrors (there back : TypeComparison) : Prop where
  first : back.first = there.second
  second : back.second = there.first

variable {there back : TypeComparison} {pair : Nat × Nat}

theorem Mirrors.symm (mirrors : there.Mirrors back) : back.Mirrors there :=
  ⟨mirrors.second.symm, mirrors.first.symm⟩

/-- Two types that do not differ do not differ the other way round, if names on the second side are
distinct.

Proof: pairs that, turned round, do not differ match the other way round, and lead to such pairs only. -/
theorem Unchanged.mirrored (unchanged : there.Unchanged pair) (mirrors : there.Mirrors back)
    (distinct : there.second.NamesDistinct) : back.Unchanged pair.swap := by
  refine unchanged_of_invariant (fun turned => there.Unchanged turned.swap) ?_ ?_ ?_
  · intro turned unchanged
    rw [changesAt_eq_nil_iff, mirrors.first, mirrors.second]
    exact unchanged.nodes.mirrored (distinct.node _)
  · intro turned child unchanged step
    rw [Steps, mirrors.first, mirrors.second] at step
    exact unchanged.step (swap_mem_ofNodes unchanged.nodes (distinct.node _) step)
  · rw [Prod.swap_swap]
    exact unchanged

/-- Whether two types differ does not depend on which one comes first, if names are distinct. -/
theorem unchanged_swap_iff (mirrors : there.Mirrors back) (firstDistinct : there.first.NamesDistinct)
    (secondDistinct : there.second.NamesDistinct) :
    back.Unchanged pair.swap ↔ there.Unchanged pair := by
  constructor
  · intro unchanged
    have again := unchanged.mirrored mirrors.symm (mirrors.second ▸ firstDistinct)
    rwa [Prod.swap_swap] at again
  · exact fun unchanged => unchanged.mirrored mirrors secondDistinct

end TypeComparison

end Abiscope
