import Abiscope.Proofs.WaysOfReaching

/-!
# Which pairs are remembered

While a pair is being compared, hardly anything is remembered that leads back to it: a run that comes
back to the pair is cut there, and its results are not remembered as long as the pair is open. This
holds of all that a run adds to the memory. What was remembered before may lead to the pair, and a path
through such a result is not cut, as the result is taken as it is.

What is remembered stays, and a remembered part is placed as it is into whatever it is a part of.
-/

namespace Abiscope

/-- A pair of types by itself, reached in some way. -/
def TypePart.whole (pair : Nat × Nat) (reach : Reach) : TypePart := ⟨"", pair.1, pair.2, reach⟩

namespace TypeComparison

variable {comparison : TypeComparison} {memory : Memory} {reach : Reach} {pair : Nat × Nat}

/-! ## What leads back to an open pair -/

/-- No remembered pair, reached in a given way, leads to a goal on pairs that pass. -/
def Shuts (comparison : TypeComparison) (reach : Reach) (passes : Nat × Nat → Prop)
    (goal : Nat × Nat) (memory : Memory) : Prop :=
  ∀ pair, comparison.Names pair → memory.get? (comparison.key (.whole pair reach)) ≠ none →
    ¬comparison.Reaches passes (· = goal) pair

/-- The parts of what is not reached directly are reached alike. -/
theorem reach_eq_of_mem_partsOf {above part : TypePart} (indirect : above.reach ≠ .direct)
    (isPart : part ∈ comparison.partsOf above) : part.reach = above.reach := by
  rw [reach_of_mem_partsOf isPart]
  exact Reach.foldl_through_of_ne _ indirect

/-- Remembering a pair that does not lead to the goal keeps the goal shut. -/
theorem Shuts.insert {passes : Nat × Nat → Prop} {goal : Nat × Nat} {part : TypePart}
    {result : Option TypeDifference} (shuts : comparison.Shuts reach passes goal memory)
    (named : comparison.Names part.pair)
    (apart : ¬comparison.Reaches passes (· = goal) part.pair) :
    comparison.Shuts reach passes goal (memory.insert (comparison.key part) result) := by
  intro other otherNamed known
  rw [Std.TreeMap.get?_eq_getElem?, Std.TreeMap.getElem?_insert] at known
  by_cases same : Ord.compare (comparison.key part) (comparison.key (.whole other reach)) = .eq
  · have wholeNamed : comparison.Names (TypePart.whole other reach).pair := otherNamed
    have pairs : part.pair = other :=
      (key_inj named wholeNamed (Std.LawfulEqOrd.eq_of_compare same)).1
    rw [← pairs]
    exact apart
  · rw [if_neg same, ← Std.TreeMap.get?_eq_getElem?] at known
    exact shuts other otherNamed known

/-- A part that is entered does not lead to a goal further up beside the cuts that are open around it, if
its own parts do not, beside those that are open then.

Proof: a path that comes back to the part can be cut short there, so its rest avoids whatever is open
below. -/
theorem not_reaches_of_parts {trail : Trail comparison.pairs} {part : TypePart} {cut : Option Nat}
    {passes goal : Nat × Nat → Prop} (named : comparison.Names part.pair)
    (fresh : comparison.number part ∉ trail.nodes) (other : ¬goal part.pair)
    (apart : ∀ inner ∈ comparison.partsOf part, ¬comparison.Reaches (fun other => passes other ∧
      ¬comparison.IsOpen (trail.enter _ fresh (number_lt named)) cut other) goal inner.pair) :
    ¬comparison.Reaches (fun other => passes other ∧
      ¬comparison.IsOpen trail (cut.filter (· < trail.nodes.length)) other) goal part.pair := by
  intro reaches
  obtain ⟨_, isGoal | ⟨child, step, rest⟩⟩ := reaches.avoid
  · exact other isGoal
  · obtain ⟨inner, isPart, rfl⟩ := (steps_iff_mem_partsOf part).mp step
    refine apart inner isPart (rest.mono ?_)
    rintro avoided ⟨⟨pass, shut⟩, differs⟩
    refine ⟨pass, fun opened => ?_⟩
    rcases opened.eq_or_of_enter named fresh with same | before
    · exact differs same
    · exact shut before

/-- Nothing that a run remembers leads back to a pair that is open around it, if nothing that was
remembered before does, all on pairs that pass.

Proof: by induction over runs. What is compared leads to the goal only through pairs at which a cut is
open. The part that is entered may be avoided: a path that comes back to it can be cut short there. So
if no cut is open around the part, it does not lead to the goal. -/
theorem shut_run (comparison : TypeComparison) (indirect : reach ≠ .direct)
    (passes : Nat × Nat → Prop) {goal : Nat × Nat} (goalNamed : comparison.Names goal) :
    (∀ trail part memory, comparison.numberOf goal ∈ trail.nodes → part.reach = reach →
      comparison.Shuts reach passes goal memory →
      comparison.Shuts reach passes goal (comparison.compareOn trail part memory).2 ∧
        ¬comparison.Reaches (fun other => passes other ∧
            ¬comparison.IsOpen trail (comparison.compareOn trail part memory).1.cut other)
          (· = goal) part.pair) ∧
    ∀ trail parts memory, comparison.numberOf goal ∈ trail.nodes →
      (∀ part ∈ parts, part.reach = reach) → comparison.Shuts reach passes goal memory →
      comparison.Shuts reach passes goal (comparison.compareEach trail parts memory).2.2 ∧
        ∀ part ∈ parts, ¬comparison.Reaches (fun other => passes other ∧
            ¬comparison.IsOpen trail (comparison.compareEach trail parts memory).2.1 other)
          (· = goal) part.pair := by
  apply run_induction comparison
    (fun trail part memory outcome after => comparison.numberOf goal ∈ trail.nodes →
      part.reach = reach → comparison.Shuts reach passes goal memory →
      comparison.Shuts reach passes goal after ∧
        ¬comparison.Reaches (fun other => passes other ∧ ¬comparison.IsOpen trail outcome.cut other)
          (· = goal) part.pair)
    (fun trail parts memory _ cut after => comparison.numberOf goal ∈ trail.nodes →
      (∀ part ∈ parts, part.reach = reach) → comparison.Shuts reach passes goal memory →
      comparison.Shuts reach passes goal after ∧
        ∀ part ∈ parts, ¬comparison.Reaches (fun other => passes other ∧
          ¬comparison.IsOpen trail cut other) (· = goal) part.pair)
  case unnamed =>
    intro trail part memory unnamed _ _ shuts
    refine ⟨shuts, fun reaches => ?_⟩
    cases reaches with
    | here _ isGoal => exact unnamed (isGoal ▸ goalNamed)
    | behind _ step _ =>
      obtain ⟨inner, isPart, _⟩ := (steps_iff_mem_partsOf part).mp step
      rw [partsOf_of_not_names unnamed] at isPart
      contradiction
  case known =>
    intro trail part memory result named known _ reached shuts
    refine ⟨shuts, fun reaches => shuts part.pair named ?_ (reaches.mono fun _ pass => pass.1)⟩
    have same : comparison.key (.whole part.pair reach) = comparison.key part :=
      key_congr rfl reached.symm
    rw [same, known]
    exact Option.some_ne_none result
  case entered =>
    intro trail part memory named _ entered _ _ shuts
    exact ⟨shuts, fun reaches => reaches.passes_of.2 ⟨named, entered, _, rfl, Nat.le_refl _⟩⟩
  case settled =>
    intro trail part memory findings cut after named fresh _ inductionHypothesis shut entered reached
      shuts
    obtain ⟨shutsAfter, apart⟩ := inductionHypothesis (List.mem_cons_of_mem _ entered)
      (fun inner isPart => (reach_eq_of_mem_partsOf (reached ▸ indirect) isPart).trans reached) shuts
    have other : part.pair ≠ goal := fun same => fresh (same.symm ▸ entered :)
    have apartPart := not_reaches_of_parts named fresh other apart
    rw [shut] at apartPart
    exact ⟨shutsAfter.insert named fun reaches =>
      apartPart (reaches.mono fun _ pass => ⟨pass, not_isOpen_none⟩), apartPart⟩
  case pending =>
    intro trail part memory findings cut after depth named fresh _ inductionHypothesis isCut entered
      reached shuts
    obtain ⟨shutsAfter, apart⟩ := inductionHypothesis (List.mem_cons_of_mem _ entered)
      (fun inner isPart => (reach_eq_of_mem_partsOf (reached ▸ indirect) isPart).trans reached) shuts
    have other : part.pair ≠ goal := fun same => fresh (same.symm ▸ entered :)
    rw [← isCut]
    exact ⟨shutsAfter, not_reaches_of_parts named fresh other apart⟩
  case nil =>
    exact fun _ _ _ _ shuts => ⟨shuts, fun _ impossible => by contradiction⟩
  case cons =>
    intro trail part rest memory outcome between findings cut after ofPart ofRest open_ reached shuts
    obtain ⟨shutsBetween, apart⟩ := ofPart open_ (reached part List.mem_cons_self) shuts
    obtain ⟨shutsAfter, apartRest⟩ := ofRest open_
      (fun inner member => reached inner (List.mem_cons_of_mem _ member)) shutsBetween
    refine ⟨shutsAfter, fun inner member reaches => ?_⟩
    rcases List.mem_cons.mp member with rfl | later
    · exact apart (reaches.mono fun _ pass =>
        ⟨pass.1, fun opened => pass.2 (IsOpen.outer (Or.inl opened))⟩)
    · exact apartRest inner later (reaches.mono fun _ pass =>
        ⟨pass.1, fun opened => pass.2 (IsOpen.outer (Or.inr opened))⟩)

/-! ## What stays and where it is placed -/

/-- What is remembered is not changed by a run. -/
theorem kept_run (comparison : TypeComparison) (key : Nat) (known : Option TypeDifference) :
    (∀ trail part memory, memory.get? key = some known →
      (comparison.compareOn trail part memory).2.get? key = some known) ∧
    ∀ trail parts memory, memory.get? key = some known →
      (comparison.compareEach trail parts memory).2.2.get? key = some known := by
  apply run_induction comparison
    (fun _ _ memory _ after => memory.get? key = some known → after.get? key = some known)
    (fun _ _ memory _ _ after => memory.get? key = some known → after.get? key = some known)
  case unnamed => exact fun _ _ _ _ kept => kept
  case known => exact fun _ _ _ _ _ _ kept => kept
  case entered => exact fun _ _ _ _ _ _ kept => kept
  case settled =>
    intro trail part memory findings cut after _ _ unknown inductionHypothesis _ kept
    rw [Std.TreeMap.get?_eq_getElem?, Std.TreeMap.getElem?_insert, if_neg,
      ← Std.TreeMap.get?_eq_getElem?]
    · exact inductionHypothesis kept
    · intro same
      rw [Std.LawfulEqOrd.eq_of_compare same, kept] at unknown
      contradiction
  case pending => exact fun _ _ _ _ _ _ _ _ _ _ inductionHypothesis _ => inductionHypothesis
  case nil => exact fun _ _ kept => kept
  case cons => exact fun _ _ _ _ _ _ _ _ _ ofPart ofRest kept => ofRest (ofPart kept)

/-- What is found for a part stands among the findings that it is placed before. -/
theorem mem_located_place {role : String} {result : Option TypeDifference} {beside : Findings}
    {entry : List Finding × Finding} :
    entry ∈ (place role result beside).located ↔
      (∃ difference, result = some difference ∧ entry ∈ difference.located) ∨
        entry ∈ beside.located := by
  cases result with
  | none => simp [place]
  | some difference =>
    rw [place, Findings.located, List.mem_append]
    simp only [Option.some.injEq, exists_eq_left', TypeDifference.located]

/-- Whatever parts are compared before one of them, what is found for it stands among the findings. -/
theorem exists_placed {trail : Trail comparison.pairs} {holds : Memory → Prop}
    (kept : ∀ part memory, holds memory → holds (comparison.compareOn trail part memory).2)
    {parts : List TypePart} {part : TypePart} (isPart : part ∈ parts) {memory : Memory}
    (start : holds memory) :
    ∃ between, holds between ∧ ∀ difference,
      (comparison.compareOn trail part between).1.difference = some difference →
        ∀ entry ∈ difference.located, entry ∈ (comparison.compareEach trail parts memory).1.located := by
  induction parts generalizing memory with
  | nil => contradiction
  | cons first rest inductionHypothesis =>
    simp only [compareEach_cons, mem_located_place]
    rcases List.mem_cons.mp isPart with rfl | later
    · exact ⟨memory, start, fun difference found entry member =>
        Or.inl ⟨difference, found, member⟩⟩
    · obtain ⟨between, held, placed⟩ := inductionHypothesis later (kept first memory start)
      exact ⟨between, held, fun difference found entry member =>
        Or.inr (placed difference found entry member)⟩

/-- The trail that has entered a pair by itself. -/
def alone {comparison : TypeComparison} {pair : Nat × Nat} (named : comparison.Names pair) :
    Trail comparison.pairs :=
  Trail.start.enter (comparison.numberOf pair) List.not_mem_nil
    (@number_lt comparison (.whole pair .direct) named)

/-- The run that compares the parts of a pair by itself. -/
def runInside (comparison : TypeComparison) {pair : Nat × Nat} (named : comparison.Names pair)
    (reach : Reach) (memory : Memory) : Findings × Option Nat × Memory :=
  comparison.compareEach (alone named) (comparison.partsOf (.whole pair reach)) memory

/-- What is remembered for a pair is what comparing it returns. -/
theorem compare_of_known {result : Option TypeDifference} (named : comparison.Names pair)
    (known : memory.get? (comparison.key (.whole pair reach)) = some result) :
    comparison.compare pair.1 pair.2 reach memory = (result, memory) := by
  have taken := @compareOn_of_known comparison Trail.start (.whole pair reach) memory result named known
  rw [compare]
  exact congrArg (fun run => (run.1.difference, run.2)) taken

/-- A pair that is not remembered is judged by what is found about its parts, and remembered. -/
theorem compare_of_unknown (named : comparison.Names pair)
    (unknown : memory.get? (comparison.key (.whole pair reach)) = none) :
    comparison.compare pair.1 pair.2 reach memory =
      (comparison.judge (.whole pair reach) (comparison.runInside named reach memory).1,
        (comparison.runInside named reach memory).2.2.insert (comparison.key (.whole pair reach))
          (comparison.judge (.whole pair reach) (comparison.runInside named reach memory).1)) := by
  have entered := @compareOn_of_not_mem comparison Trail.start (.whole pair reach) memory named unknown
    List.not_mem_nil
  have shut (cut : Option Nat) : cut.filter (· < ([] : List Nat).length) = none := by
    cases cut <;> simp
  rw [settle, show (Trail.start : Trail comparison.pairs).nodes = [] from rfl, shut] at entered
  rw [compare]
  exact congrArg (fun run => (run.1.difference, run.2)) entered

/-- The result for a pair that was not remembered is remembered. -/
theorem get?_compare_self (named : comparison.Names pair)
    (unknown : memory.get? (comparison.key (.whole pair reach)) = none) :
    (comparison.compare pair.1 pair.2 reach memory).2.get? (comparison.key (.whole pair reach)) =
      some (comparison.compare pair.1 pair.2 reach memory).1 := by
  rw [compare_of_unknown named unknown, Std.TreeMap.get?_eq_getElem?, Std.TreeMap.getElem?_insert_self]

/-- Of other pairs only that is remembered which comparing the parts leaves. -/
theorem get?_compare_of_key_ne (named : comparison.Names pair)
    (unknown : memory.get? (comparison.key (.whole pair reach)) = none) {part : TypePart}
    (differs : comparison.key (.whole pair reach) ≠ comparison.key part) :
    (comparison.compare pair.1 pair.2 reach memory).2.get? (comparison.key part) =
      (comparison.runInside named reach memory).2.2.get? (comparison.key part) := by
  rw [compare_of_unknown named unknown, Std.TreeMap.get?_eq_getElem?, Std.TreeMap.getElem?_insert,
    if_neg fun same => differs (Std.LawfulEqOrd.eq_of_compare same), Std.TreeMap.get?_eq_getElem?]

/-- Where something is found for a part, whatever is compared before it, a difference is found, and the
part stands in it. -/
theorem exists_compare_above (named : comparison.Names pair)
    (unknown : memory.get? (comparison.key (.whole pair reach)) = none) {part : TypePart}
    (isPart : part ∈ comparison.partsOf (.whole pair reach)) {holds : Memory → Prop}
    (kept : ∀ part memory, holds memory → holds (comparison.compareOn (alone named) part memory).2)
    (start : holds memory) :
    ∃ between, holds between ∧ ∀ found,
      (comparison.compareOn (alone named) part between).1.difference = some found →
        ∃ difference, (comparison.compare pair.1 pair.2 reach memory).1 = some difference ∧
          ∀ entry ∈ found.located, (difference.finding :: entry.1, entry.2) ∈ difference.located := by
  obtain ⟨between, held, placed⟩ := exists_placed kept isPart start
  refine ⟨between, held, fun found isFound => ?_⟩
  have inside : ∀ entry ∈ found.located, entry ∈ (comparison.runInside named reach memory).1.located :=
    placed found isFound
  have result : (comparison.compare pair.1 pair.2 reach memory).1 =
      comparison.judge (.whole pair reach) (comparison.runInside named reach memory).1 :=
    congrArg Prod.fst (compare_of_unknown named unknown)
  have nonempty : (comparison.runInside named reach memory).1 ≠ .empty := by
    intro empty
    have top := inside _ List.mem_cons_self
    rw [empty] at top
    contradiction
  obtain ⟨difference, judged⟩ := exists_judge_of_ne_empty nonempty
  refine ⟨difference, result.trans judged, fun entry member => ?_⟩
  rw [TypeDifference.located, (judge_eq_some judged).2.2.2]
  exact List.mem_cons_of_mem _ (List.mem_map.mpr ⟨entry, inside entry member, rfl⟩)

/-- What is remembered for a part stands in what is found above it. -/
theorem exists_compare_of_remembered (named : comparison.Names pair)
    (unknown : memory.get? (comparison.key (.whole pair reach)) = none) {part : TypePart}
    (isPart : part ∈ comparison.partsOf (.whole pair reach)) (partNamed : comparison.Names part.pair)
    {found : TypeDifference} (remembered : memory.get? (comparison.key part) = some (some found)) :
    ∃ difference, (comparison.compare pair.1 pair.2 reach memory).1 = some difference ∧
      ∀ entry ∈ found.located, (difference.finding :: entry.1, entry.2) ∈ difference.located := by
  obtain ⟨between, held, placed⟩ := exists_compare_above named unknown isPart
    (fun part memory => (comparison.kept_run _ (some found)).1 (alone named) part memory) remembered
  refine placed found ?_
  rw [compareOn_of_known _ _ partNamed held]

/-- Comparing a pair that is reached in one way does not make it remembered as reached in another. -/
theorem get?_compare_of_reach_ne {other : Reach} (named : comparison.Names pair)
    (recalls : comparison.RecallsFound memory)
    (unknown : ∀ reach, memory.get? (comparison.key (.whole pair reach)) = none)
    (differs : reach ≠ other) :
    (comparison.compare pair.1 pair.2 reach memory).2.get? (comparison.key (.whole pair other)) =
      none := by
  have keys : comparison.key (.whole pair reach) ≠ comparison.key (.whole pair other) :=
    fun same => differs (@key_inj comparison (.whole pair reach) (.whole pair other) named named
      same).2
  rw [get?_compare_of_key_ne named (unknown reach) keys]
  exact (comparison.found_run.2 (alone named) _ memory recalls).2.1 (.whole pair other)
    List.mem_cons_self (unknown other)

end TypeComparison

end Abiscope
