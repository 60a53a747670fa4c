import Abiscope.Proofs.SymbolTables

/-!
# Classes of aliases

The index of aliases is kept in three parts, of which every record changes at most two: the main symbol of
each address, the main symbol that each further one is linked to, and the further ones of each main symbol.
At any time they describe the list of the addresses that were recorded. The places of an address, in their
order, are its main symbol and behind it those that are linked to it, and nothing else is linked. What keeps
this true is that the symbol found under an address is a main one, which is not linked itself.

So symbols are aliases exactly if they are the same or recorded under one address, and the answers about a
class of aliases name each of its members once.
-/

namespace Abiscope

instance : Std.TransOrd Address where
  eq_swap {left right} := Std.OrientedOrd.eq_swap (a := left.val) (b := right.val)
  isLE_trans {left middle right} :=
    Std.TransOrd.isLE_trans (a := left.val) (b := middle.val) (c := right.val)

instance : Std.LawfulEqOrd Address where
  eq_of_compare {left right} same := by
    cases left
    cases right
    exact congrArg Address.mk (Std.LawfulEqOrd.eq_of_compare same)

namespace Symbol

namespace AliasIndex

/-- An index describes the addresses of symbols, given by their places. -/
structure Describes (index : AliasIndex) (addresses : List (Option Address)) : Prop where
  /-- Under an address stands its first place. -/
  mains : ∀ address, index.mains.get? address = (placesOf addresses address).head?
  /-- Behind the first place of an address come those that are linked to it. -/
  linked : ∀ address main rest, placesOf addresses address = main :: rest →
    index.further.get main = rest ∧ ∀ place ∈ rest, index.mainOf.get? place = some main
  /-- A place that is the first of its address, or has none, is not linked. -/
  unlinked : ∀ place, (∀ address main rest, placesOf addresses address = main :: rest → place ∉ rest) →
    index.mainOf.get? place = none
  /-- Nothing is linked to a place that is not the first of an address. -/
  lone : ∀ place, (∀ address rest, placesOf addresses address ≠ place :: rest) →
    index.further.get place = []

variable {index : AliasIndex} {addresses : List (Option Address)}

/-- A place has one address. -/
theorem address_unique {one other : Address} {place : Nat} (ofOne : place ∈ placesOf addresses one)
    (ofOther : place ∈ placesOf addresses other) : one = other := by
  rw [mem_placesOf] at ofOne ofOther
  rw [ofOne] at ofOther
  exact Option.some.inj (Option.some.inj ofOther)

/-- The first place of an address is a place of it. -/
theorem first_mem {address : Address} {main : Nat} {rest : List Nat}
    (places : placesOf addresses address = main :: rest) : main ∈ placesOf addresses address := by
  rw [places]
  exact List.mem_cons_self

/-- The further places of an address are places of it. -/
theorem further_mem {address : Address} {main place : Nat} {rest : List Nat}
    (places : placesOf addresses address = main :: rest) (behind : place ∈ rest) :
    place ∈ placesOf addresses address := by
  rw [places]
  exact List.mem_cons_of_mem main behind

/-- The first place of an address does not come a second time. -/
theorem notMem_rest {address other : Address} {main : Nat} {rest others : List Nat} {before : Nat}
    (places : placesOf addresses address = main :: rest)
    (otherPlaces : placesOf addresses other = before :: others) : main ∉ others := by
  intro member
  have same : address = other := address_unique (first_mem places) (further_mem otherPlaces member)
  subst same
  rw [places] at otherPlaces
  obtain ⟨rfl, rfl⟩ := List.cons.inj otherPlaces
  have ordered := pairwise_placesOf addresses address
  rw [places] at ordered
  exact absurd ((List.pairwise_cons.mp ordered).1 main member) (Nat.lt_irrefl main)

/-- What is found once a key has its value. -/
theorem get?_insert {κ : Type} [Ord κ] [Std.TransOrd κ] [Std.LawfulEqOrd κ] [DecidableEq κ]
    (map : Std.TreeMap κ Nat) (key other : κ) (value : Nat) :
    (map.insert key value).get? other = if key = other then some value else map.get? other := by
  simp only [Std.TreeMap.get?_eq_getElem?, Std.TreeMap.getElem?_insert,
    Std.LawfulEqOrd.compare_eq_iff_eq]

/-- The place behind a list is none of an address in it. -/
theorem length_notMem_placesOf (addresses : List (Option Address)) (address : Address) :
    addresses.length ∉ placesOf addresses address := by
  rw [mem_placesOf, List.getElem?_eq_none le_rfl]
  exact (Option.some_ne_none _).symm

namespace Describes

/-- At first nothing is recorded. -/
theorem empty : Describes {} [] where
  mains _ := by simp [placesOf]
  linked _ _ _ places := by simp [placesOf] at places
  unlinked _ _ := by simp
  lone _ _ := Groups.get_empty _

/-- The first place of an address is its own main symbol. -/
theorem main_first (describes : index.Describes addresses) {address : Address} {main : Nat}
    {rest : List Nat} (places : placesOf addresses address = main :: rest) : index.main main = main := by
  have none := describes.unlinked main fun _ _ _ otherPlaces => notMem_rest places otherPlaces
  rw [AliasIndex.main, none, Option.getD_none]

/-- All places of an address have its first place as their main symbol. -/
theorem main_of_mem (describes : index.Describes addresses) {address : Address} {main place : Nat}
    {rest : List Nat} (places : placesOf addresses address = main :: rest)
    (member : place ∈ placesOf addresses address) : index.main place = main := by
  rw [places] at member
  rcases List.mem_cons.mp member with rfl | behind
  · exact describes.main_first places
  · have linked := (describes.linked address main rest places).2 place behind
    rw [AliasIndex.main, linked, Option.getD_some]

/-- A place without an address is its own main symbol. -/
theorem main_of_forall_notMem (describes : index.Describes addresses) {place : Nat}
    (none : ∀ address, place ∉ placesOf addresses address) : index.main place = place := by
  have unlinked := describes.unlinked place fun address main rest places behind =>
    none address (further_mem places behind)
  rw [AliasIndex.main, unlinked, Option.getD_none]

/-- The aliases of a place are the other places of its address. -/
theorem aliases_of_mem (describes : index.Describes addresses) {address : Address} {place : Nat}
    (member : place ∈ placesOf addresses address) :
    index.aliases place = (placesOf addresses address).filter (· != place) := by
  obtain ⟨main, rest, places⟩ := List.exists_cons_of_ne_nil (List.ne_nil_of_mem member)
  rw [AliasIndex.aliases, describes.main_of_mem places member, (describes.linked _ _ _ places).1, places]
  by_cases first : main = place
  · simp [first]
  · simp [first]

/-- A place without an address has no aliases. -/
theorem aliases_of_forall_notMem (describes : index.Describes addresses) {place : Nat}
    (none : ∀ address, place ∉ placesOf addresses address) : index.aliases place = [] := by
  have lone := describes.lone place fun address rest places =>
    none address (first_mem places)
  rw [AliasIndex.aliases, describes.main_of_forall_notMem none, lone]
  simp

/-- A symbol without an address changes nothing. -/
theorem append_none (describes : index.Describes addresses) :
    index.Describes (addresses ++ [none]) := by
  have same (address : Address) : placesOf (addresses ++ [none]) address = placesOf addresses address := by
    rw [placesOf_append, if_neg (Option.some_ne_none address).symm]
  constructor
  all_goals simp only [same]
  · exact describes.mains
  · exact describes.linked
  · exact describes.unlinked
  · exact describes.lone

/-- A symbol at a new address becomes the main one of it. -/
theorem record_new (describes : index.Describes addresses) {address : Address}
    (new : index.mains.get? address = none) :
    (index.record addresses.length address).Describes (addresses ++ [some address]) := by
  have unplaced : placesOf addresses address = [] := by
    rw [← List.head?_eq_none_iff, ← describes.mains, new]
  have own : placesOf (addresses ++ [some address]) address = [addresses.length] := by
    rw [placesOf_append_self, unplaced, List.nil_append]
  have others {other : Address} (differs : address ≠ other) :=
    placesOf_append_of_ne addresses differs
  -- An address that has places is not the new one.
  have keeps {other : Address} {main : Nat} {rest : List Nat}
      (places : placesOf addresses other = main :: rest) :
      placesOf (addresses ++ [some address]) other = main :: rest := by
    have differs : address ≠ other := by
      rintro rfl
      rw [unplaced] at places
      contradiction
    rw [others differs, places]
  rw [AliasIndex.record, new]
  constructor
  case mains =>
    intro other
    rw [get?_insert]
    by_cases same : address = other
    · rw [if_pos same, ← same, own, List.head?_singleton]
    · rw [if_neg same, others same, describes.mains]
  case linked =>
    intro other main rest places
    by_cases same : address = other
    · rw [← same, own] at places
      obtain ⟨rfl, rfl⟩ := List.cons.inj places
      refine ⟨describes.lone _ fun other rest places => ?_, fun _ member => absurd member List.not_mem_nil⟩
      exact length_notMem_placesOf addresses other (first_mem places)
    · exact describes.linked other main rest (others same ▸ places)
  case unlinked =>
    intro place apart
    exact describes.unlinked place fun other main rest places => apart other main rest (keeps places)
  case lone =>
    intro place apart
    exact describes.lone place fun other rest places => apart other rest (keeps places)

/-- A symbol at a known address is linked to the main one of it. -/
theorem record_known (describes : index.Describes addresses) {address : Address} {known : Nat}
    (found : index.mains.get? address = some known) :
    (index.record addresses.length address).Describes (addresses ++ [some address]) := by
  obtain ⟨before, places⟩ : ∃ before, placesOf addresses address = known :: before := by
    rw [← List.head?_eq_some_iff, ← describes.mains, found]
  have own : placesOf (addresses ++ [some address]) address =
      known :: (before ++ [addresses.length]) := by
    rw [placesOf_append_self, places, List.cons_append]
  have others {other : Address} (differs : address ≠ other) :=
    placesOf_append_of_ne addresses differs
  -- What is found under an address is a main symbol, so the new one is linked to it directly.
  rw [AliasIndex.record, found]
  simp only [describes.main_first places]
  constructor
  case mains =>
    intro other
    by_cases same : address = other
    · rw [← same, found, own, List.head?_cons]
    · rw [others same, describes.mains]
  case linked =>
    intro other main rest listed
    rw [Groups.get_add]
    by_cases same : address = other
    · rw [← same, own] at listed
      obtain ⟨rfl, rfl⟩ := List.cons.inj listed
      obtain ⟨further, linked⟩ := describes.linked address known before places
      refine ⟨by rw [if_pos rfl, further], fun place member => ?_⟩
      rw [get?_insert]
      split
      case isTrue => rfl
      case isFalse earlier =>
        rcases List.mem_append.mp member with inside | last
        · exact linked place inside
        · exact absurd (List.mem_singleton.mp last).symm earlier
    · rw [others same] at listed
      obtain ⟨further, linked⟩ := describes.linked other main rest listed
      have apart : known ≠ main := by
        rintro rfl
        exact same (address_unique (first_mem places) (first_mem listed))
      refine ⟨by rw [if_neg apart, further], fun place member => ?_⟩
      rw [get?_insert, if_neg]
      · exact linked place member
      · rintro rfl
        exact length_notMem_placesOf addresses other (further_mem listed member)
  case unlinked =>
    intro place apart
    have earlier : addresses.length ≠ place := by
      rintro rfl
      exact apart address known _ own (by simp)
    rw [get?_insert, if_neg earlier]
    refine describes.unlinked place fun other main rest listed behind => ?_
    by_cases same : address = other
    · rw [← same, places] at listed
      obtain ⟨rfl, rfl⟩ := List.cons.inj listed
      exact apart address known _ own (List.mem_append_left _ behind)
    · exact apart other main rest (by rw [others same, listed]) behind
  case lone =>
    intro place apart
    have differs : known ≠ place := by
      rintro rfl
      exact apart address _ own
    rw [Groups.get_add, if_neg differs]
    refine describes.lone place fun other rest listed => ?_
    by_cases same : address = other
    · rw [← same, places] at listed
      exact differs (List.cons.inj listed).1
    · exact apart other rest (by rw [others same, listed])

/-- Recording a further symbol keeps an index describing what was recorded. -/
theorem record (describes : index.Describes addresses) (address : Address) :
    (index.record addresses.length address).Describes (addresses ++ [some address]) := by
  cases found : index.mains.get? address with
  | none => exact describes.record_new found
  | some known => exact describes.record_known found

end Describes

/-- The index of a list of addresses describes it. -/
theorem describes_ofAddresses (addresses : List (Option Address)) :
    (ofAddresses addresses).Describes addresses := by
  induction addresses using List.reverseRecOn with
  | nil => exact Describes.empty
  | append_singleton addresses last describes =>
    rw [ofAddresses, List.zipIdx_append, List.foldl_append, ← ofAddresses]
    cases last with
    | none => exact describes.append_none
    | some address =>
      have recorded := describes.record address
      rwa [← Nat.zero_add addresses.length] at recorded

namespace Describes

/-- The main symbol of a place with an address is itself one of the address, and the least. -/
theorem isLeast_main (describes : index.Describes addresses) {address : Address} {place : Nat}
    (member : place ∈ placesOf addresses address) :
    IsLeast {other | other ∈ placesOf addresses address} (index.main place) := by
  obtain ⟨main, rest, places⟩ := List.exists_cons_of_ne_nil (List.ne_nil_of_mem member)
  rw [describes.main_of_mem places member]
  simpa only [mem_placesOf] using isLeast_of_head?_placesOf (by rw [places, List.head?_cons])

/-- Places have one main symbol exactly if they are the same or have one address. -/
theorem main_eq_main_iff (describes : index.Describes addresses) (one other : Nat) :
    index.main one = index.main other ↔ one = other ∨
      ∃ address, one ∈ placesOf addresses address ∧ other ∈ placesOf addresses address := by
  constructor
  · intro same
    by_cases ofOne : ∃ address, one ∈ placesOf addresses address
    · obtain ⟨address, member⟩ := ofOne
      have main := (describes.isLeast_main member).1
      rw [same] at main
      refine Or.inr ⟨address, member, ?_⟩
      by_cases ofOther : ∃ second, other ∈ placesOf addresses second
      · obtain ⟨second, otherMember⟩ := ofOther
        exact address_unique main (describes.isLeast_main otherMember).1 ▸ otherMember
      · rwa [describes.main_of_forall_notMem (not_exists.mp ofOther)] at main
    · rw [describes.main_of_forall_notMem (not_exists.mp ofOne)] at same
      by_cases ofOther : ∃ second, other ∈ placesOf addresses second
      · obtain ⟨second, otherMember⟩ := ofOther
        exact absurd ⟨second, same ▸ (describes.isLeast_main otherMember).1⟩ ofOne
      · rw [describes.main_of_forall_notMem (not_exists.mp ofOther)] at same
        exact Or.inl same
  · rintro (rfl | ⟨address, ofOne, ofOther⟩)
    · rfl
    · exact (describes.isLeast_main ofOne).unique (describes.isLeast_main ofOther)

end Describes

end AliasIndex

/-! ## Tables -/

namespace Table

/-- A defined symbol that is not common is recorded under an address. -/
def HoldsAt (table : Table) (place : Nat) (address : Address) : Prop :=
  ∃ symbol, table.symbol? place = some symbol ∧ symbol.isDefined = true ∧ symbol.isCommon = false ∧
    symbol.address = some address

/-- Two places are the same, or their symbols are recorded under one address. -/
def Together (table : Table) (one other : Nat) : Prop :=
  one = other ∨ ∃ address, table.HoldsAt one address ∧ table.HoldsAt other address

/-- The aliases of a table are the classes of symbols that are recorded under one address. -/
structure GroupsAliases (table : Table) : Prop where
  areAliases_iff : ∀ one other, table.areAliases one other = true ↔ table.Together one other
  equivalence : Equivalence fun one other => table.areAliases one other = true
  /-- The main symbol is the first of its class. -/
  main_isLeast : ∀ place, IsLeast {other | table.Together place other} (table.main place)
  /-- The aliases of a symbol are the others of its class, each of them once. -/
  mem_aliases_iff : ∀ place other,
    other ∈ table.aliases place ↔ other ≠ place ∧ table.Together place other
  aliases_ascending : ∀ place, (table.aliases place).Pairwise (· < ·)
  main_first : ∀ place, table.main place ≠ place →
    (table.aliases place).head? = some (table.main place)
  /-- Where functions are not reached through descriptors, an address leads to the main symbol of those
  recorded under it. -/
  findAddress_main : table.flavor.usesDescriptors = false →
    ∀ place address, table.HoldsAt place address → table.findAddress address = some (table.main place)
  findAddress_none : table.flavor.usesDescriptors = false →
    ∀ address, (∀ place, ¬table.HoldsAt place address) → table.findAddress address = none

/-- The places of the symbols that are recorded under an address. -/
def placesAt (table : Table) (address : Address) : List Nat :=
  placesOf (table.symbols.toList.map Symbol.address) address

variable {entries : List Entry} {flavor : Flavor} {suppresses : Symbol → Bool} {table : Table}

/-- The index of a table describes the addresses of its symbols. -/
theorem describes_of_ofEntries (made : ofEntries entries flavor suppresses = .ok table) :
    table.aliasIndex.Describes (table.symbols.toList.map Symbol.address) := by
  obtain ⟨_, rfl⟩ := eq_of_ofEntries made
  exact AliasIndex.describes_ofAddresses _

/-- A symbol of an entry has an address exactly if it is defined and not common. -/
theorem isSome_address_toSymbol (entry : Entry) :
    entry.toSymbol.address.isSome = true ↔
      entry.toSymbol.isDefined = true ∧ entry.toSymbol.isCommon = false := by
  rw [Entry.toSymbol]
  cases entry.place <;> simp

/-- Symbols with an address are defined and not common, so all of them are recorded under it. -/
theorem holdsAt_iff (made : ofEntries entries flavor suppresses = .ok table) (place : Nat)
    (address : Address) : table.HoldsAt place address ↔ place ∈ table.placesAt address := by
  rw [placesAt, mem_placesOf, List.getElem?_map, Array.getElem?_toList]
  constructor
  · rintro ⟨symbol, held, _, _, recorded⟩
    rw [show table.symbols[place]? = some symbol from held, Option.map_some, recorded]
  · intro placed
    obtain ⟨symbol, held, recorded⟩ := Option.map_eq_some_iff.mp placed
    obtain ⟨entry, _, gives⟩ := exists_gives_of_symbol? made held
    have addresses : symbol.address = entry.toSymbol.address := (congrArg Symbol.address gives.same :)
    have addressed := (isSome_address_toSymbol entry).mp (by rw [← addresses, recorded]; rfl)
    exact ⟨symbol, held, (congrArg Symbol.isDefined gives.same :).trans addressed.1,
      (congrArg Symbol.isCommon gives.same :).trans addressed.2, recorded⟩

/-- The class of a symbol that has an address are the symbols recorded under the address. -/
theorem together_iff_mem (made : ofEntries entries flavor suppresses = .ok table) {address : Address}
    {place : Nat} (member : place ∈ table.placesAt address) (other : Nat) :
    table.Together place other ↔ other ∈ table.placesAt address := by
  simp only [Together, holdsAt_iff made]
  constructor
  · rintro (rfl | ⟨second, ofPlace, ofOther⟩)
    · exact member
    · exact AliasIndex.address_unique member ofPlace ▸ ofOther
  · exact fun otherMember => Or.inr ⟨address, member, otherMember⟩

/-- A symbol without an address is alone in its class. -/
theorem together_iff_eq (made : ofEntries entries flavor suppresses = .ok table) {place : Nat}
    (none : ∀ address, place ∉ table.placesAt address) (other : Nat) :
    table.Together place other ↔ place = other := by
  simp only [Together, holdsAt_iff made]
  exact or_iff_left fun ⟨address, member, _⟩ => none address member

/-- Symbols are of one class exactly if they have one main symbol. -/
theorem together_iff_main_eq (made : ofEntries entries flavor suppresses = .ok table) (one other : Nat) :
    table.Together one other ↔ table.main one = table.main other := by
  simp only [Together, holdsAt_iff made]
  exact ((describes_of_ofEntries made).main_eq_main_iff one other).symm

/-- Symbols are aliases exactly if they are of one class. -/
theorem areAliases_iff_together (made : ofEntries entries flavor suppresses = .ok table)
    (one other : Nat) : table.areAliases one other = true ↔ table.Together one other := by
  rw [areAliases, Bool.or_eq_true, beq_iff_eq, beq_iff_eq, together_iff_main_eq made]
  exact or_iff_right_of_imp (congrArg table.main)

/-- The aliases of a symbol are the others of its class, in the order of the table. -/
theorem aliases_of_ofEntries (made : ofEntries entries flavor suppresses = .ok table) (place : Nat) :
    (table.aliases place).Pairwise (· < ·) ∧
      ∀ other, other ∈ table.aliases place ↔ other ≠ place ∧ table.Together place other := by
  have describes := describes_of_ofEntries made
  rw [aliases]
  by_cases addressed : ∃ address, place ∈ table.placesAt address
  · obtain ⟨address, member⟩ := addressed
    rw [describes.aliases_of_mem member]
    refine ⟨(pairwise_placesOf _ address).filter _, fun other => ?_⟩
    rw [together_iff_mem made member, List.mem_filter, bne_iff_ne, and_comm]
    rfl
  · have none := not_exists.mp addressed
    rw [describes.aliases_of_forall_notMem none]
    refine ⟨List.Pairwise.nil, fun other => ?_⟩
    rw [together_iff_eq made none]
    simp [eq_comm]

/-- Without descriptors no code addresses are known. -/
theorem codeAddresses_of_ofEntries (made : ofEntries entries flavor suppresses = .ok table)
    (plain : table.flavor.usesDescriptors = false) : table.codeAddresses = ∅ := by
  obtain ⟨_, rfl⟩ := eq_of_ofEntries made
  exact codeAddresses_filled_of_plain plain

/-- Without descriptors an address leads to the first symbol recorded under it. -/
theorem findAddress_of_ofEntries (made : ofEntries entries flavor suppresses = .ok table)
    (plain : table.flavor.usesDescriptors = false) (address : Address) :
    table.findAddress address = (table.placesAt address).head? := by
  rw [placesAt, ← (describes_of_ofEntries made).mains, findAddress,
    codeAddresses_of_ofEntries made plain]
  simp

/-- Aliases are exactly the symbols recorded under one address: the main one is the first of them, the
others are listed with it once each, and addresses lead to main symbols.

Proof: the index describes the addresses of the symbols. A place without an address is alone in its class;
any other one has the places of its address for its class, of which the main symbol is the least. -/
theorem groupsAliases_of_ofEntries (made : ofEntries entries flavor suppresses = .ok table) :
    table.GroupsAliases := by
  have describes := describes_of_ofEntries made
  constructor
  case areAliases_iff => exact areAliases_iff_together made
  case equivalence =>
    simp only [areAliases_iff_together made, together_iff_main_eq made]
    exact ⟨fun _ => rfl, Eq.symm, Eq.trans⟩
  case main_isLeast =>
    intro place
    by_cases addressed : ∃ address, place ∈ table.placesAt address
    · obtain ⟨address, member⟩ := addressed
      simp only [together_iff_mem made member]
      exact describes.isLeast_main member
    · have none := not_exists.mp addressed
      simp only [together_iff_eq made none]
      rw [main, describes.main_of_forall_notMem none]
      exact ⟨rfl, fun other same => le_of_eq same⟩
  case mem_aliases_iff => exact fun place => (aliases_of_ofEntries made place).2
  case aliases_ascending => exact fun place => (aliases_of_ofEntries made place).1
  case main_first =>
    intro place linked
    rw [main] at linked
    rw [aliases, AliasIndex.aliases, if_neg linked]
    rfl
  case findAddress_main =>
    intro plain place address holds
    have member := (holdsAt_iff made place address).mp holds
    obtain ⟨first, rest, places⟩ := List.exists_cons_of_ne_nil (List.ne_nil_of_mem member)
    rw [findAddress_of_ofEntries made plain, main, describes.main_of_mem places member, places,
      List.head?_cons]
  case findAddress_none =>
    intro plain address none
    rw [findAddress_of_ofEntries made plain, List.head?_eq_none_iff, List.eq_nil_iff_forall_not_mem]
    intro place member
    exact none place ((holdsAt_iff made place address).mpr member)

/-- A function under three names, of which one is not defined here, and a variable at another address. -/
def copyEntries : List Entry := [
  { index := 1, name := "memcpy", typeCode := 2, value := 0x1000 },
  { index := 2, name := "memmove", typeCode := 2, value := 0x1000, place := .undefined },
  { index := 3, name := "bcopy", typeCode := 2, value := 0x1000, bindingCode := 2 },
  { index := 4, name := "copied", typeCode := 1, value := 0x4000 },
  { index := 5, name := "__memcpy", typeCode := 2, value := 0x1000, bindingCode := 0 }]

/-- The table of these symbols. -/
theorem groupsAliases_copyEntries :
    ∃ table, ofEntries copyEntries {} (fun _ => false) = .ok table ∧ table.GroupsAliases := by
  have ok : (ofEntries copyEntries {} (fun _ => false)).toBool = true := by decide +kernel
  obtain ⟨table, made⟩ := exists_ofEntries_eq_ok ok
  exact ⟨table, made, groupsAliases_of_ofEntries made⟩

-- The name that is not defined here stands alone, and the other two follow the function's first name.
example :
    let table := ((ofEntries copyEntries {} (fun _ => false)).toOption.getD {})
    (table.aliases 2 = [0, 4] ∧ table.aliases 1 = []) ∧ table.findAddress ⟨0x4000⟩ = some 3 := by
  decide +kernel

end Table

end Symbol

end Abiscope
