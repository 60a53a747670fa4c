import Abiscope.Difference.TypeComparison
import Mathlib.Data.List.Forall2

/-!
# Related runs

Two computations that remember results of comparisons are related if they give related results and leave
related memories whenever they start from related memories. This carries over from what is done with one
item to what is done with all of them, one after the other.
-/

namespace Abiscope

/-! ## Related values -/

/-- What agrees is there on both sides or on neither. -/
theorem isSome_eq_of_rel {α β : Type} {results : α → β → Prop} {left : Option α}
    {right : Option β} (related : Option.Rel results left right) : left.isSome = right.isSome := by
  cases related <;> rfl

/-- What one related value has, the other has if the relation carries it over. -/
theorem any_of_rel {α β : Type} {results : α → β → Prop} {left : Option α} {right : Option β}
    {ofLeft : α → Bool} {ofRight : β → Bool} (related : Option.Rel results left right)
    (carries : ∀ one other, results one other → ofRight other = true → ofLeft one = true)
    (found : right.any ofRight = true) : left.any ofLeft = true := by
  cases related with
  | none => contradiction
  | some related => exact carries _ _ related found

/-- What some element of a list has, some element of a related list has if the relation carries it
over. -/
theorem any_of_forall₂ {α β : Type} {results : α → β → Prop} {left : List α} {right : List β}
    {ofLeft : α → Bool} {ofRight : β → Bool} (related : List.Forall₂ results left right)
    (carries : ∀ one other, results one other → ofRight other = true → ofLeft one = true)
    (found : right.any ofRight = true) : left.any ofLeft = true := by
  induction related with
  | nil => contradiction
  | cons head _ inductionHypothesis =>
    rw [List.any_cons, Bool.or_eq_true] at found ⊢
    rcases found with first | later
    · exact Or.inl (carries _ _ head first)
    · exact Or.inr (inductionHypothesis later)

/-- Of two related lists the first has at least as many elements that are as asked, if the relation
carries this over. -/
theorem countP_le_of_forall₂ {α β : Type} {results : α → β → Prop} {left : List α} {right : List β}
    {ofLeft : α → Bool} {ofRight : β → Bool} (related : List.Forall₂ results left right)
    (carries : ∀ one other, results one other → ofRight other = true → ofLeft one = true) :
    right.countP ofRight ≤ left.countP ofLeft := by
  induction related with
  | nil => exact Nat.le_refl _
  | @cons one other _ _ head _ inductionHypothesis =>
    rw [List.countP_cons, List.countP_cons]
    cases found : ofRight other with
    | true =>
      rw [carries one other head found, if_pos rfl]
      exact Nat.add_le_add_right inductionHypothesis 1
    | false =>
      rw [if_neg Bool.false_ne_true]
      exact Nat.le_trans inductionHypothesis (Nat.le_add_right _ _)

/-- What no element has, none of fewer elements has. -/
theorem any_eq_false_of_subset {α : Type} {few many : List α} {asked : α → Bool}
    (fewer : ∀ element ∈ few, element ∈ many) (none : many.any asked = false) :
    few.any asked = false := by
  rw [List.any_eq_false] at none ⊢
  exact fun element member => none element (fewer element member)

/-! ## Related computations -/

namespace TypeComparison

variable {α β γ δ : Type} {memories : Memory → Memory → Prop}

/-- From related memories, two computations give related results and leave related memories. -/
def Relates (memories : Memory → Memory → Prop) (results : α → β → Prop) (left : Remembering α)
    (right : Remembering β) : Prop :=
  ∀ one other, memories one other →
    results (left one).1 (right other).1 ∧ memories (left one).2 (right other).2

namespace Relates

variable {results : α → β → Prop} {others : γ → δ → Prop}

theorem pure {one : α} {other : β} (related : results one other) :
    Relates memories results (Pure.pure one) (Pure.pure other) :=
  fun _ _ memoriesRelated => ⟨related, memoriesRelated⟩

theorem bind {left : Remembering α} {right : Remembering β} {leftNext : α → Remembering γ}
    {rightNext : β → Remembering δ} (related : Relates memories results left right)
    (next : ∀ one other, results one other → Relates memories others (leftNext one) (rightNext other)) :
    Relates memories others (left >>= leftNext) (right >>= rightNext) := by
  intro one other memoriesRelated
  obtain ⟨resultsRelated, between⟩ := related one other memoriesRelated
  exact next _ _ resultsRelated _ _ between

end Relates

/-- Goes through items one after the other and keeps what is made of them. -/
def eachOf (make : α → Remembering (Option β)) : List α → Remembering (List β)
  | [] => return []
  | item :: rest => do
    let found ← make item
    let others ← eachOf make rest
    return found.toList ++ others

/-- What is made of two lists of items is made of the first and then, with what is remembered by then,
of the second. -/
theorem eachOf_append (make : α → Remembering (Option β)) (before after : List α) (memory : Memory) :
    (eachOf make (before ++ after) memory).1 =
      (eachOf make before memory).1 ++ (eachOf make after (eachOf make before memory).2).1 := by
  induction before generalizing memory with
  | nil => rfl
  | cons item rest inductionHypothesis =>
    have step := inductionHypothesis (make item memory).2
    change (make item memory).1.toList ++ (eachOf make (rest ++ after) (make item memory).2).1 =
      ((make item memory).1.toList ++ (eachOf make rest (make item memory).2).1) ++ _
    rw [step, List.append_assoc]
    rfl

/-- Everything is made of some item. -/
theorem exists_of_mem_eachOf {make : α → Remembering (Option β)} {items : List α} {memory : Memory}
    {found : β} (member : found ∈ (eachOf make items memory).1) :
    ∃ item ∈ items, ∃ between, (make item between).1 = some found := by
  induction items generalizing memory with
  | nil => contradiction
  | cons item rest inductionHypothesis =>
    rcases List.mem_append.mp member with first | later
    · exact ⟨item, List.mem_cons_self, memory, Option.mem_toList.mp first⟩
    · obtain ⟨other, otherMember, made⟩ := inductionHypothesis later
      exact ⟨other, List.mem_cons_of_mem _ otherMember, made⟩

/-- Making related things of every item makes related lists. -/
theorem Relates.eachOf {results : β → γ → Prop} {left : α → Remembering (Option β)}
    {right : α → Remembering (Option γ)} {items : List α}
    (related : ∀ item ∈ items, Relates memories (Option.Rel results) (left item) (right item)) :
    Relates memories (List.Forall₂ results) (eachOf left items) (eachOf right items) := by
  induction items with
  | nil => exact .pure .nil
  | cons item rest inductionHypothesis =>
    refine .bind (related item List.mem_cons_self) fun one other found => ?_
    refine .bind (inductionHypothesis fun later member =>
      related later (List.mem_cons_of_mem _ member)) fun oneRest otherRest foundRest => ?_
    refine .pure ?_
    cases found with
    | none => exact foundRest
    | some same => exact .cons same foundRest

end TypeComparison

end Abiscope
