import Abiscope.Proofs.SymbolTables

/-!
# Instances of common symbols

Common symbols of one name are instances of one variable. Every one of them is linked when it is added, and
it is linked to the first symbol of its name, whatever that is: if the first one is not common itself, no
instance of the name is linked at all. So the first common symbol of a name has all others for its instances
if it is the first symbol of the name, and otherwise only if there are no others.
-/

namespace Abiscope.Symbol

namespace Table

variable {entries : List Entry} {flavor : Flavor} {suppresses : Symbol → Bool} {table : Table}

/-! ## What is linked -/

/-- A further place is that of an instance of the symbol at a place: both symbols are common and of one
name, and the first place is the first of the name. -/
def LinksTo (entries : List Entry) (place other : Nat) : Prop :=
  place < other ∧ entries[place]?.map Entry.place = some .common ∧
    entries[other]?.map Entry.place = some .common ∧
    entries[place]?.map Entry.name = entries[other]?.map Entry.name ∧
    ∀ earlier < place, entries[earlier]?.map Entry.name ≠ entries[other]?.map Entry.name

instance (entries : List Entry) (place other : Nat) : Decidable (LinksTo entries place other) :=
  inferInstanceAs (Decidable (_ ∧ _ ∧ _ ∧ _ ∧ _))

/-- What is linked is not changed by entries that come later. -/
theorem linksTo_append_of_lt (entry : Entry) (place : Nat) {other : Nat} (inside : other < entries.length) :
    LinksTo (entries ++ [entry]) place other ↔ LinksTo entries place other := by
  have same (here : Nat) (upTo : here ≤ other) : (entries ++ [entry])[here]? = entries[here]? :=
    List.getElem?_append_left (upTo.trans_lt inside)
  refine and_congr_right fun before => ?_
  rw [same place before.le, same other le_rfl]
  refine and_congr_right fun _ => and_congr_right fun _ => and_congr_right fun _ => ?_
  refine forall₂_congr fun earlier smaller => ?_
  rw [same earlier (smaller.trans before).le]

/-- A common symbol that comes last is linked to the first of its name, if that is common too. -/
theorem linksTo_append_length (entries : List Entry) (entry : Entry) (place : Nat) :
    LinksTo (entries ++ [entry]) place entries.length ↔
      entry.place = .common ∧ entries[place]?.map Entry.place = some .common ∧
        (placesOf (entries.map fun entry => some entry.name) entry.name).head? = some place := by
  have last : (entries ++ [entry])[entries.length]? = some entry := List.getElem?_concat_length
  have same {here : Nat} (inside : here < entries.length) : (entries ++ [entry])[here]? = entries[here]? :=
    List.getElem?_append_left inside
  have named (here : Nat) : (entries.map fun entry => some entry.name)[here]? = some (some entry.name) ↔
      entries[here]?.map Entry.name = some entry.name := by
    rw [List.getElem?_map]
    cases entries[here]? <;> simp
  simp only [head?_placesOf_eq_some_iff, Ne, named]
  constructor
  · rintro ⟨before, isCommon, lastIsCommon, sameName, isFirst⟩
    rw [same before] at isCommon sameName
    rw [last, Option.map_some] at lastIsCommon sameName
    refine ⟨Option.some.inj lastIsCommon, isCommon, sameName, fun earlier smaller => ?_⟩
    have apart := isFirst earlier smaller
    rwa [same (smaller.trans before), last, Option.map_some] at apart
  · rintro ⟨lastIsCommon, isCommon, sameName, isFirst⟩
    obtain ⟨first, held, _⟩ := Option.map_eq_some_iff.mp sameName
    have before : place < entries.length := (List.getElem?_eq_some_iff.mp held).1
    refine ⟨before, ?_, ?_, ?_, fun earlier smaller => ?_⟩
    · rw [same before, isCommon]
    · rw [last, Option.map_some, lastIsCommon]
    · rw [same before, last, sameName, Option.map_some]
    · rw [same (smaller.trans before), last]
      exact isFirst earlier smaller

/-- A place is linked to the first of the places under the name, if that is another one and common. -/
theorem get_linkInstance (symbols : Array Symbol) (names : Groups String) (instances : Groups Nat)
    (id : Nat) (name : String) (place : Nat) :
    (linkInstance symbols names instances id name).get place =
      if (names.get name).head? = some place ∧ place ≠ id ∧ symbols[place]?.any Symbol.isCommon = true then
        instances.get place ++ [id]
      else instances.get place := by
  rw [linkInstance]
  split
  case h_1 unnamed => rw [unnamed, if_neg (by simp)]
  case h_2 first rest named =>
    simp only [named, List.head?_cons, Option.some_inj]
    by_cases linked : (first != id && symbols[first]?.any Symbol.isCommon) = true
    · rw [if_pos linked, Groups.get_add]
      rw [Bool.and_eq_true, bne_iff_ne] at linked
      refine if_congr ⟨?_, And.left⟩ rfl rfl
      rintro rfl
      exact ⟨rfl, linked⟩
    · rw [if_neg linked, if_neg]
      rintro ⟨rfl, another, isCommon⟩
      exact linked (Bool.and_eq_true_iff.mpr ⟨bne_iff_ne.mpr another, isCommon⟩)

/-- The common ones among the symbols that were added. -/
theorem any_isCommon_symbols_filled (flavor : Flavor) (suppresses : Symbol → Bool)
    (entries : List Entry) (place : Nat) :
    (filled flavor suppresses entries).symbols[place]?.any Symbol.isCommon = true ↔
      entries[place]?.map Entry.place = some .common := by
  rw [symbols_filled, List.getElem?_toArray, List.getElem?_map]
  cases entries[place]? with
  | none => simp
  | some entry =>
    rw [Option.map_some, Option.any_some, Option.map_some, Option.some_inj]
    exact beq_iff_eq

/-- A further entry is linked if it is common. -/
theorem instances_filled_append (flavor : Flavor) (suppresses : Symbol → Bool) (entries : List Entry)
    (entry : Entry) :
    (filled flavor suppresses (entries ++ [entry])).instances =
      if entry.toSymbol.isCommon then
        linkInstance (filled flavor suppresses (entries ++ [entry])).symbols
          (filled flavor suppresses (entries ++ [entry])).names
          (filled flavor suppresses entries).instances entries.length entry.name
      else (filled flavor suppresses entries).instances := by
  rw [filled_append, addEntry, size_symbols_filled]
  rfl

/-- A further entry is linked to a place if it is an instance of the symbol there. -/
theorem get_instances_filled_append (flavor : Flavor) (suppresses : Symbol → Bool) (entries : List Entry)
    (entry : Entry) (place : Nat) :
    (filled flavor suppresses (entries ++ [entry])).instances.get place =
      if LinksTo (entries ++ [entry]) place entries.length then
        (filled flavor suppresses entries).instances.get place ++ [entries.length]
      else (filled flavor suppresses entries).instances.get place := by
  have isCommon : entry.toSymbol.isCommon = true ↔ entry.place = .common := beq_iff_eq
  have firstPlace := head?_append_length_iff (entries.map fun entry => some entry.name) entry.name place
  rw [List.length_map] at firstPlace
  rw [instances_filled_append]
  simp only [linksTo_append_length, ← isCommon]
  split
  case isFalse uncommon => rw [if_neg fun linked => uncommon linked.1]
  case isTrue common =>
    rw [get_linkInstance, names_filled, Groups.get_ofKeys, List.map_append, List.map_singleton,
      placesOf_append_self, List.length_map]
    refine if_congr ?_ rfl rfl
    rw [and_iff_right common, any_isCommon_symbols_filled, ← and_assoc, firstPlace,
      and_comm (a := entries[place]?.map Entry.place = some .common)]
    refine and_congr_right fun head => ?_
    have inside := lt_length_of_head?_placesOf head
    rw [List.length_map] at inside
    rw [List.getElem?_append_left inside]

/-- Under a place stand the instances that are linked to it, in their order. -/
theorem get_instances_filled (flavor : Flavor) (suppresses : Symbol → Bool) (entries : List Entry)
    (place : Nat) :
    (filled flavor suppresses entries).instances.get place =
      (List.range entries.length).filter fun other => LinksTo entries place other := by
  induction entries using List.reverseRecOn with
  | nil => exact Groups.get_empty place
  | append_singleton entries entry inductionHypothesis =>
    have before : (List.range entries.length).filter (fun other => LinksTo (entries ++ [entry]) place other) =
        (List.range entries.length).filter fun other => LinksTo entries place other := by
      refine List.filter_congr fun other member => ?_
      exact decide_eq_decide.mpr (linksTo_append_of_lt entry place (List.mem_range.mp member))
    rw [get_instances_filled_append, inductionHypothesis, List.length_append, List.length_singleton,
      List.range_succ, List.filter_append, before]
    by_cases links : LinksTo (entries ++ [entry]) place entries.length <;> simp [links]

/-! ## Instances of a name -/

/-- A place holds a common symbol of a name. -/
def IsCommonOf (table : Table) (name : String) (place : Nat) : Prop :=
  ∃ symbol, table.symbol? place = some symbol ∧ symbol.isCommon = true ∧ symbol.name = name

/-- The instances that are linked to a place are the other common symbols of a name, in the order of the
table. -/
def ListsOthers (table : Table) (name : String) (place : Nat) : Prop :=
  (table.commonInstances place).Pairwise (· < ·) ∧
    ∀ other, other ∈ table.commonInstances place ↔ other ≠ place ∧ table.IsCommonOf name other

/-- A place holds a common symbol of a name if the entry there is a common one of the name. -/
theorem isCommonOf_iff (made : ofEntries entries flavor suppresses = .ok table) (name : String)
    (place : Nat) :
    table.IsCommonOf name place ↔
      (entries.filter fun entry => entry.IsSymbol flavor)[place]?.map Entry.place = some .common ∧
        (entries.filter fun entry => entry.IsSymbol flavor)[place]?.map Entry.name = some name := by
  rw [IsCommonOf, symbol?_of_ofEntries made]
  cases (entries.filter fun entry => entry.IsSymbol flavor)[place]? with
  | none => simp
  | some entry =>
    have sameCommon : (Entry.recorded (markersOf flavor entries) suppresses entry).isCommon =
        (entry.place == .common) :=
      (congrArg Symbol.isCommon (Entry.gives_recorded _ suppresses entry).same :)
    simp only [Option.map_some, Option.some_inj, exists_eq_left', sameCommon, Entry.name_recorded,
      beq_iff_eq]

/-- The instances under a place are those that are linked to it. -/
theorem mem_commonInstances_iff (made : ofEntries entries flavor suppresses = .ok table)
    (place other : Nat) :
    other ∈ table.commonInstances place ↔
      LinksTo (entries.filter fun entry => entry.IsSymbol flavor) place other := by
  obtain ⟨_, rfl⟩ := eq_of_ofEntries made
  rw [commonInstances, get_instances_filled, List.mem_filter, decide_eq_true_eq, List.mem_range,
    and_iff_right_iff_imp]
  rintro ⟨_, _, otherIsCommon, _, _⟩
  obtain ⟨entry, held, _⟩ := Option.map_eq_some_iff.mp otherIsCommon
  exact (List.getElem?_eq_some_iff.mp held).1

/-- Instances are listed in the order of the table. -/
theorem pairwise_commonInstances (made : ofEntries entries flavor suppresses = .ok table) (place : Nat) :
    (table.commonInstances place).Pairwise (· < ·) := by
  obtain ⟨_, rfl⟩ := eq_of_ofEntries made
  rw [commonInstances, get_instances_filled]
  exact List.pairwise_lt_range.filter _

/-- To the first common symbol of a name are linked the other ones, if no symbol of the name comes before
it, and none otherwise. -/
theorem mem_commonInstances_iff_of_isLeast (made : ofEntries entries flavor suppresses = .ok table)
    {name : String} {place : Nat} (first : IsLeast {place | table.IsCommonOf name place} place)
    (other : Nat) :
    other ∈ table.commonInstances place ↔ (other ≠ place ∧ table.IsCommonOf name other) ∧
      ∀ earlier < place, (table.symbol? earlier).map Symbol.name ≠ some name := by
  obtain ⟨own, least⟩ := first
  obtain ⟨isCommon, named⟩ := (isCommonOf_iff made name place).mp own
  have names (here : Nat) : (table.symbol? here).map Symbol.name =
      (entries.filter fun entry => entry.IsSymbol flavor)[here]?.map Entry.name := by
    rw [symbol?_of_ofEntries made, Option.map_map]
    exact congrArg (Option.map · _) (funext (Entry.name_recorded _ suppresses))
  simp only [mem_commonInstances_iff made, names]
  constructor
  · rintro ⟨before, _, otherIsCommon, sameName, isFirst⟩
    rw [← sameName, named] at isFirst
    exact ⟨⟨before.ne', (isCommonOf_iff made name other).mpr ⟨otherIsCommon, sameName ▸ named⟩⟩, isFirst⟩
  · rintro ⟨⟨another, ofName⟩, isFirst⟩
    obtain ⟨otherIsCommon, otherNamed⟩ := (isCommonOf_iff made name other).mp ofName
    rw [← otherNamed] at isFirst
    exact ⟨lt_of_le_of_ne (least ofName) another.symm, isCommon, otherIsCommon, named.trans otherNamed.symm,
      isFirst⟩

/-- The first common symbol of a name has all others of the name for its instances exactly if no symbol of
the name comes before it or there are no others. -/
theorem listsOthers_iff (made : ofEntries entries flavor suppresses = .ok table) {name : String}
    {place : Nat} (first : IsLeast {place | table.IsCommonOf name place} place) :
    table.ListsOthers name place ↔
      (∀ earlier < place, (table.symbol? earlier).map Symbol.name ≠ some name) ∨
        ∀ other, table.IsCommonOf name other → other = place := by
  simp only [ListsOthers, and_iff_right (pairwise_commonInstances made place),
    mem_commonInstances_iff_of_isLeast made first, and_iff_left_iff_imp]
  constructor
  · intro complete
    by_contra neither
    obtain ⟨preceded, another⟩ := not_or.mp neither
    refine another fun other ofName => by_contra fun differs => preceded (complete other ⟨differs, ofName⟩)
  · rintro (isFirst | alone) other ⟨another, ofName⟩
    · exact isFirst
    · exact absurd (alone other ofName) another

/-- A common symbol, a defined one of its name, and two further instances. -/
def tentativeEntries : List Entry := [
  { index := 1, name := "buffer", typeCode := 1, value := 8, place := .common },
  { index := 2, name := "buffer", typeCode := 1, value := 0x4000, bindingCode := 0 },
  { index := 3, name := "buffer", typeCode := 1, value := 8, place := .common },
  { index := 4, name := "buffer", typeCode := 1, value := 16, place := .common }]

/-- The further instances are linked to the first one. -/
theorem listsOthers_tentativeEntries :
    ∃ table, ofEntries tentativeEntries {} (fun _ => false) = .ok table ∧
      IsLeast {place | table.IsCommonOf "buffer" place} 0 ∧ table.ListsOthers "buffer" 0 := by
  have ok : (ofEntries tentativeEntries {} fun _ => false).toBool = true := by decide +kernel
  obtain ⟨table, made⟩ := exists_ofEntries_eq_ok ok
  have first : IsLeast {place | table.IsCommonOf "buffer" place} 0 :=
    ⟨(isCommonOf_iff made "buffer" 0).mpr (by decide +kernel), fun place _ => place.zero_le⟩
  exact ⟨table, made, first, (listsOthers_iff made first).mpr (Or.inl fun earlier smaller =>
    absurd smaller earlier.not_lt_zero)⟩

/-- A symbol that is not defined, and two common ones of its name. -/
def declaredEntries : List Entry := [
  { index := 1, name := "buffer", typeCode := 1, value := 0, place := .undefined },
  { index := 2, name := "buffer", typeCode := 1, value := 8, place := .common },
  { index := 3, name := "buffer", typeCode := 1, value := 8, place := .common }]

/-- The first common symbol does not have the other one for an instance. -/
theorem declared_not_listsOthers :
    ∃ table, ofEntries declaredEntries {} (fun _ => false) = .ok table ∧
      IsLeast {place | table.IsCommonOf "buffer" place} 1 ∧ table.IsCommonOf "buffer" 2 ∧
      2 ∉ table.commonInstances 1 ∧ ¬table.ListsOthers "buffer" 1 := by
  have ok : (ofEntries declaredEntries {} fun _ => false).toBool = true := by decide +kernel
  obtain ⟨table, made⟩ := exists_ofEntries_eq_ok ok
  have other : table.IsCommonOf "buffer" 2 := (isCommonOf_iff made "buffer" 2).mpr (by decide +kernel)
  have unlinked : 2 ∉ table.commonInstances 1 := by
    rw [mem_commonInstances_iff made]
    decide +kernel
  refine ⟨table, made, ⟨(isCommonOf_iff made "buffer" 1).mpr (by decide +kernel), ?_⟩, other, unlinked,
    fun lists => unlinked ((lists.2 2).mpr ⟨by decide, other⟩)⟩
  rintro (_ | place) ofName
  · exact absurd ((isCommonOf_iff made "buffer" 0).mp ofName) (by decide +kernel)
  · exact place.succ_pos

end Table

end Abiscope.Symbol
