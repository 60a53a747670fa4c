import Abiscope.Proofs.SideKeys
import Mathlib.Data.List.Basic
import Mathlib.Data.List.Induction

/-!
# Offered symbols

The interface of a side has one symbol under each id string, although several symbols of a binary may
share one. It is the last of those that are listed and selected, in the order of the table: listing sorts
by id strings and leaves symbols of one id string in their order, and the interface keeps the last one it
is given.
-/

namespace Abiscope

/-- Sorting leaves elements in their order that may stand in any order. -/
theorem filter_mergeSort_of_alike {α : Type} {before : α → α → Bool} {asked : α → Bool}
    (trans : ∀ one other third, before one other = true → before other third = true →
      before one third = true)
    (total : ∀ one other, (before one other || before other one) = true)
    (alike : ∀ one other, asked one = true → asked other = true → before one other = true)
    (list : List α) : (list.mergeSort before).filter asked = list.filter asked := by
  have sorted : (list.filter asked).Pairwise fun one other => before one other = true :=
    List.pairwise_of_forall_mem_list fun one oneAsked other otherAsked =>
      alike one other (List.mem_filter.mp oneAsked).2 (List.mem_filter.mp otherAsked).2
  have inside := (List.sublist_mergeSort trans total sorted List.filter_sublist).filter asked
  rw [List.filter_filter] at inside
  simp only [Bool.and_self] at inside
  exact (inside.eq_of_length ((List.mergeSort_perm list before).symm.filter asked).length_eq).symm

/-- The last insertion under a key is the one that counts. -/
theorem get?_foldl_insert_eq_getLast? {α : Type} (keyOf : α → String) (items : List α)
    (key : String) :
    (items.foldl (fun keyed item => keyed.insert (keyOf item) item)
      (∅ : Std.TreeMap String α)).get? key = (items.filter fun item => keyOf item == key).getLast? := by
  induction items using List.reverseRecOn with
  | nil => simp
  | append_singleton items item inductionHypothesis =>
    rw [List.foldl_append, List.foldl_cons, List.foldl_nil, List.filter_append,
      Std.TreeMap.get?_eq_getElem?, Std.TreeMap.getElem?_insert]
    by_cases same : keyOf item = key
    · simp [same]
    · simp [same, ← inductionHypothesis, Std.TreeMap.get?_eq_getElem?]

namespace Symbol.Table

/-- The id string at a place, empty where there is no symbol. -/
def idStringAt (symbols : Array Symbol) (place : Nat) : String :=
  (symbols[place]?.map Symbol.idString).getD ""

/-- Whether an id string with its place may come before another one. -/
def mayPrecede (one other : String × Nat) : Bool := one.1 ≤ other.1

theorem mayPrecede_trans (one other third : String × Nat) (first : mayPrecede one other = true)
    (second : mayPrecede other third = true) : mayPrecede one third = true :=
  decide_eq_true (String.le_trans (of_decide_eq_true first) (of_decide_eq_true second))

theorem mayPrecede_total (one other : String × Nat) :
    (mayPrecede one other || mayPrecede other one) = true := by
  rw [Bool.or_eq_true, mayPrecede, mayPrecede, decide_eq_true_iff, decide_eq_true_iff]
  exact String.le_total one.1 other.1

/-- Places that hold symbols are sorted together with their id strings. -/
theorem sortByIdString_eq (symbols : Array Symbol) (places : List Nat)
    (held : ∀ place ∈ places, place < symbols.size) :
    sortByIdString symbols places =
      ((places.map fun place => (idStringAt symbols place, place)).mergeSort mayPrecede).map
        Prod.snd := by
  have keyed : (places.filterMap fun place => symbols[place]?.map fun symbol =>
      (symbol.idString, place)) = places.map fun place => (idStringAt symbols place, place) := by
    rw [← List.filterMap_eq_map]
    refine List.filterMap_congr fun place member => ?_
    rw [Function.comp_apply, idStringAt, Array.getElem?_eq_getElem (held place member)]
    rfl
  rw [sortByIdString, keyed]
  rfl

/-- Sorting keeps with every place its id string. -/
theorem fst_eq_of_mem_sorted {symbols : Array Symbol} {places : List Nat} {item : String × Nat}
    (member : item ∈
      (places.map fun place => (idStringAt symbols place, place)).mergeSort mayPrecede) :
    item.1 = idStringAt symbols item.2 := by
  obtain ⟨place, _, rfl⟩ := List.mem_map.mp ((List.mergeSort_perm _ _).mem_iff.mp member)
  rfl

/-- Places of one id string stay in their order when places are sorted by id strings. -/
theorem filter_sortByIdString (symbols : Array Symbol) (places : List Nat)
    (held : ∀ place ∈ places, place < symbols.size) (id : String) :
    (sortByIdString symbols places).filter (fun place => idStringAt symbols place == id) =
      places.filter fun place => idStringAt symbols place == id := by
  have sorted : ((places.map fun place => (idStringAt symbols place, place)).mergeSort
      mayPrecede).filter (fun keyed => keyed.1 == id) =
      (places.map fun place => (idStringAt symbols place, place)).filter fun keyed => keyed.1 == id := by
    refine filter_mergeSort_of_alike mayPrecede_trans mayPrecede_total ?_ _
    intro one other oneSame otherSame
    rw [beq_iff_eq] at oneSame otherSame
    have same : one.1 = other.1 := oneSame.trans otherSame.symm
    exact decide_eq_true (same ▸ String.le_refl one.1)
  rw [sortByIdString_eq symbols places held, List.filter_map]
  calc
    _ = (((places.map fun place => (idStringAt symbols place, place)).mergeSort mayPrecede).filter
        fun item => item.1 == id).map Prod.snd := by
      refine congrArg _ (List.filter_congr fun item member => ?_)
      rw [fst_eq_of_mem_sorted member]
      rfl
    _ = _ := by
      rw [sorted, List.filter_map, List.map_map]
      exact List.map_id _

/-- Places are sorted by ascending id strings. -/
theorem pairwise_sortByIdString (symbols : Array Symbol) (places : List Nat)
    (held : ∀ place ∈ places, place < symbols.size) :
    (sortByIdString symbols places).Pairwise fun one other =>
      idStringAt symbols one ≤ idStringAt symbols other := by
  rw [sortByIdString_eq symbols places held, List.pairwise_map]
  refine (List.pairwise_mergeSort mayPrecede_trans mayPrecede_total _).imp_of_mem ?_
  intro one other oneSorted otherSorted before
  rw [← fst_eq_of_mem_sorted oneSorted, ← fst_eq_of_mem_sorted otherSorted]
  exact of_decide_eq_true before

/-- Sorting loses no place and adds none. -/
theorem sortByIdString_perm (symbols : Array Symbol) (places : List Nat)
    (held : ∀ place ∈ places, place < symbols.size) :
    (sortByIdString symbols places).Perm places := by
  rw [sortByIdString_eq symbols places held]
  refine ((List.mergeSort_perm _ _).map Prod.snd).trans ?_
  rw [List.map_map]
  exact List.Perm.of_eq (List.map_id _)

/-- A table lists the symbols that are not suppressed, sorted by their id strings. -/
def ListsUnsuppressed (table : Table) : Prop :=
  table.listed = sortByIdString table.symbols ((List.range table.symbols.size).filter fun place =>
    (table.symbol? place).any fun symbol => !symbol.isSuppressed)

/-- A table that is built from symbols lists those that are not suppressed. -/
theorem listsUnsuppressed_ofSymbols (symbols : List Symbol) (key : Symbol → String) :
    (ofSymbols symbols key).ListsUnsuppressed := by
  have places : (symbols.zipIdx.filterMap fun item =>
      if item.1.isSuppressed then none else some item.2) =
      (List.range symbols.length).filter fun place =>
        symbols[place]?.any fun symbol => !symbol.isSuppressed := by
    induction symbols using List.reverseRecOn with
    | nil => rfl
    | append_singleton symbols symbol inductionHypothesis =>
      rw [List.zipIdx_append, List.filterMap_append, inductionHypothesis, List.length_append,
        List.length_singleton, List.range_succ, List.filter_append]
      have before : ((List.range symbols.length).filter fun place =>
          symbols[place]?.any fun symbol => !symbol.isSuppressed) =
          (List.range symbols.length).filter fun place =>
            (symbols ++ [symbol])[place]?.any fun symbol => !symbol.isSuppressed := by
        refine List.filter_congr fun place member => ?_
        rw [List.getElem?_append_left (List.mem_range.mp member)]
      rw [before]
      cases suppressed : symbol.isSuppressed <;> simp [suppressed]
  rw [ListsUnsuppressed, ofSymbols]
  simp only [places, symbol?, List.getElem?_toArray, List.size_toArray]

end Symbol.Table

namespace Corpus

/-- The places of the symbols that a corpus offers under an id string, in the order of the table. -/
def offeredUnder (corpus : Corpus) (id : String) : List Nat :=
  (corpus.table.select corpus.table.interface).filter fun place =>
    Side.idStringOf corpus place == id

/-- The interface has the last symbol that is offered under an id string. -/
theorem get?_interfaceOf (corpus : Corpus) (id : String) :
    (Side.interfaceOf corpus).get? id = (corpus.offeredUnder id).getLast? :=
  get?_foldl_insert_eq_getLast? (Side.idStringOf corpus) _ id

/-- An id string is in the interface exactly if some symbol is offered under it. -/
theorem contains_interfaceOf_iff (corpus : Corpus) (id : String) :
    (Side.interfaceOf corpus).contains id = true ↔ corpus.offeredUnder id ≠ [] := by
  rw [Std.TreeMap.contains_eq_isSome_getElem?, ← Std.TreeMap.get?_eq_getElem?, get?_interfaceOf,
    Option.isSome_iff_ne_none, Ne, List.getLast?_eq_none_iff]

/-- A symbol is offered under its id string if it is not suppressed and part of the interface. -/
def offers (corpus : Corpus) (id : String) (symbol : Symbol) : Bool :=
  !symbol.isSuppressed && corpus.table.interface.accepts symbol && symbol.idString == id

/-- Where unsuppressed symbols are listed, the offered places are those of offered symbols, in the order of
the table. -/
theorem offeredUnder_eq_filter {corpus : Corpus} (lists : corpus.table.ListsUnsuppressed)
    (id : String) :
    corpus.offeredUnder id = (List.range corpus.table.symbols.size).filter fun place =>
      (corpus.table.symbol? place).any (corpus.offers id) := by
  have sorted := Symbol.Table.filter_sortByIdString corpus.table.symbols
    ((List.range corpus.table.symbols.size).filter fun place =>
      (corpus.table.symbol? place).any fun symbol => !symbol.isSuppressed)
    (fun place member => List.mem_range.mp (List.mem_filter.mp member).1) id
  rw [← lists] at sorted
  rw [offeredUnder, Symbol.Table.select, List.filter_comm]
  refine (congrArg _ sorted).trans ?_
  rw [List.filter_filter, List.filter_filter]
  refine List.filter_congr fun place _ => ?_
  cases held : corpus.table.symbol? place with
  | none => rfl
  | some symbol =>
    have named : Symbol.Table.idStringAt corpus.table.symbols place = symbol.idString := by
      rw [Symbol.Table.idStringAt, ← Symbol.Table.symbol?, held]
      rfl
    rw [named, Option.any_some, Option.any_some, Option.any_some, offers, Bool.and_comm,
      Bool.and_assoc]

end Corpus

end Abiscope
