import Mathlib.Data.List.Forall2

/-!
# Readings that succeed

A reading gives a value or says why it cannot. Several readings after each other succeed exactly if all
of them do, whether they are written one by one or made for each item of a list.
-/

namespace Abiscope

/-- One reading after another one succeeds exactly if both do. -/
theorem bind_eq_ok {ε α β : Type} {first : Except ε α} {next : α → Except ε β} {result : β} :
    (first >>= next) = .ok result ↔ ∃ value, first = .ok value ∧ next value = .ok result := by
  constructor
  · intro both
    cases first with
    | error fault => contradiction
    | ok value => exact ⟨value, rfl, both⟩
  · rintro ⟨value, rfl, second⟩
    exact second

/-- What is left of a reading without its failures is what it reads. -/
theorem eq_ok_of_toOption {ε α : Type} {read : Except ε α} {value : α}
    (left : read.toOption = some value) : read = .ok value := by
  cases read with
  | error fault => contradiction
  | ok found => exact congrArg _ (Option.some.inj left)

/-- A reading that succeeds does so however its failures are named. -/
theorem eq_ok_of_mapError {ε ζ α : Type} {name : ε → ζ} {read : Except ε α} {value : α}
    (made : read.mapError name = .ok value) : read = .ok value := by
  cases read with
  | error fault => contradiction
  | ok found => exact congrArg _ (Except.ok.inj made)

/-- Changing what is read leaves failures as they are. -/
theorem map_eq_ok {ε α β : Type} {change : α → β} {read : Except ε α} {result : β} :
    change <$> read = .ok result ↔ ∃ value, read = .ok value ∧ change value = result := by
  constructor
  · intro made
    cases read with
    | error fault => contradiction
    | ok value => exact ⟨value, rfl, Except.ok.inj made⟩
  · rintro ⟨value, rfl, rfl⟩
    rfl

variable {ε α β : Type} {read : α → Except ε β} {items : List α}

/-! ## Lists whose items are related one by one -/

section Pairs

variable {related : α → β → Prop} {results : List β}

/-- An item at a place is related to the item at the same place. -/
theorem exists_getElem?_of_forall₂ (pairs : List.Forall₂ related items results) {place : Nat}
    {item : α} (found : items[place]? = some item) :
    ∃ result, results[place]? = some result ∧ related item result := by
  induction pairs generalizing place with
  | nil => contradiction
  | cons first _ inductionHypothesis =>
    cases place with
    | zero =>
      cases found
      exact ⟨_, rfl, first⟩
    | succ place => exact inductionHypothesis found

/-- Each item is related to an item of the other list. -/
theorem exists_of_forall₂ (pairs : List.Forall₂ related items results) {item : α}
    (member : item ∈ items) : ∃ result ∈ results, related item result := by
  obtain ⟨place, found⟩ := List.mem_iff_getElem?.mp member
  obtain ⟨result, atPlace, between⟩ := exists_getElem?_of_forall₂ pairs found
  exact ⟨result, List.mem_of_getElem? atPlace, between⟩

/-- Items stay related when one of them and the item at the same place are changed together. -/
theorem forall₂_modify (pairs : List.Forall₂ related items results) {place : Nat} {item : α}
    {change : α → α} {result : β} (found : items[place]? = some item)
    (changed : related (change item) result) :
    List.Forall₂ related (items.modify place change) (results.set place result) := by
  induction pairs generalizing place with
  | nil => contradiction
  | cons first rest inductionHypothesis =>
    cases place with
    | zero =>
      cases found
      exact .cons changed rest
    | succ place => exact .cons first (inductionHypothesis found)

/-- Lists that begin alike are related exactly if their beginnings and their ends are. -/
theorem forall₂_append_iff {others : List α} {further : List β}
    (same : items.length = results.length) :
    List.Forall₂ related (items ++ others) (results ++ further) ↔
      List.Forall₂ related items results ∧ List.Forall₂ related others further := by
  induction items generalizing results with
  | nil =>
    rw [List.eq_nil_of_length_eq_zero same.symm]
    exact ⟨fun ends => ⟨.nil, ends⟩, fun both => both.2⟩
  | cons item rest inductionHypothesis =>
    cases results with
    | nil => contradiction
    | cons result results =>
      rw [List.cons_append, List.cons_append, List.forall₂_cons, List.forall₂_cons,
        inductionHypothesis (Nat.succ.inj same), and_assoc]

/-- What is related to the items of two lists is related one by one, where the items are. -/
theorem forall₂_of_forall₂ {γ δ : Type} {others : List γ} {further : List δ} {between : α → γ → Prop}
    {relatedToo : γ → δ → Prop} (pairs : List.Forall₂ between items others)
    (first : List.Forall₂ related items results) (second : List.Forall₂ relatedToo others further) :
    List.Forall₂ (fun result another => ∃ item other, between item other ∧ related item result ∧
      relatedToo other another) results further := by
  induction pairs generalizing results further with
  | nil =>
    cases first
    cases second
    exact .nil
  | cons joined _ inductionHypothesis =>
    cases first with
    | cons ofItem ofRest =>
      cases second with
      | cons ofOther ofOthers =>
        exact .cons ⟨_, _, joined, ofItem, ofOther⟩ (inductionHypothesis ofRest ofOthers)

end Pairs

/-! ## Readings of lists -/

/-- Reading all of some items gives what is read of each, in the same order. -/
theorem mapM_eq_ok_iff {results : List β} :
    items.mapM read = .ok results ↔
      List.Forall₂ (fun item result => read item = .ok result) items results := by
  induction items generalizing results with
  | nil =>
    rw [List.mapM_nil, List.forall₂_nil_left_iff]
    exact ⟨fun made => (Except.ok.inj made).symm, fun made => congrArg _ made.symm⟩
  | cons item rest inductionHypothesis =>
    rw [List.mapM_cons, bind_eq_ok]
    constructor
    · rintro ⟨first, ofItem, made⟩
      obtain ⟨others, ofRest, made⟩ := bind_eq_ok.mp made
      cases made
      exact .cons ofItem (inductionHypothesis.mp ofRest)
    · intro made
      cases made with
      | cons ofItem ofRest =>
        exact ⟨_, ofItem, bind_eq_ok.mpr ⟨_, inductionHypothesis.mpr ofRest, rfl⟩⟩

/-- All of some items can be read exactly if each of them can. -/
theorem exists_mapM_eq_ok_iff :
    (∃ results, items.mapM read = .ok results) ↔
      ∀ item ∈ items, ∃ result, read item = .ok result := by
  constructor
  · rintro ⟨results, made⟩ item member
    obtain ⟨result, _, ofItem⟩ := exists_of_forall₂ (mapM_eq_ok_iff.mp made) member
    exact ⟨result, ofItem⟩
  · intro each
    induction items with
    | nil => exact ⟨[], rfl⟩
    | cons item rest inductionHypothesis =>
      obtain ⟨ofItem, ofRest⟩ := List.forall_mem_cons.mp each
      obtain ⟨first, ofItem⟩ := ofItem
      obtain ⟨others, ofRest⟩ := inductionHypothesis ofRest
      exact ⟨first :: others, mapM_eq_ok_iff.mpr (.cons ofItem (mapM_eq_ok_iff.mp ofRest))⟩

/-- A check of all items passes exactly if it passes for each. -/
theorem forM_eq_ok_iff {check : α → Except ε Unit} :
    items.forM check = .ok () ↔ ∀ item ∈ items, check item = .ok () := by
  induction items with
  | nil => exact ⟨fun _ _ impossible => by contradiction, fun _ => rfl⟩
  | cons item rest inductionHypothesis =>
    rw [List.forM_eq_forM, List.forM_cons, bind_eq_ok, List.forall_mem_cons,
      ← List.forM_eq_forM, inductionHypothesis]
    constructor
    · rintro ⟨_, first, others⟩
      exact ⟨first, others⟩
    · rintro ⟨first, others⟩
      exact ⟨(), first, others⟩

end Abiscope
