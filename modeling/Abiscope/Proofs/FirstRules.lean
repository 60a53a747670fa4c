import Abiscope.Proofs.RelatedDeclarations

/-!
# Which rule labels what

The rules about functions are applied to a changed function in their order. A rule without criteria on
parameters that applies labels the whole function and ends this. The rules in front of it label single
parameters, and a parameter that has a label keeps it.

So there are two searches for a first rule. The whole function gets the label of the first rule that
hides it. A parameter gets the label of the first rule that hides this parameter, among the rules in
front of that one. Nothing else about the function changes, and a parameter that the old function does
not have gets no label.
-/

namespace Abiscope

/-- A change of a parameter that gets a label unless it has one. -/
def ParameterDifference.orLabel (difference : ParameterDifference) (label? : Option String) :
    ParameterDifference :=
  { difference with suppressedBy := difference.suppressedBy.or label? }

namespace Difference

open Suppression (Binary Changes Context FunctionFacts FunctionRule)
open TypeComparison (Memory)

/-! ## The two searches -/

/-- The position of the first rule that hides the whole of a changed function. If there is none, it lies
behind all rules. -/
def stop (binary : Binary) (facts : FunctionFacts) (rules : List FunctionRule) : Nat :=
  rules.findIdx (hidesWhole binary facts)

/-- The label for the whole of a function, which is that of the rule at which the rules stop. -/
def wholeLabel? (binary : Binary) (facts : FunctionFacts) (rules : List FunctionRule) : Option String :=
  rules[stop binary facts rules]?.map fun rule => rule.header.label

/-- The label for a parameter, which is that of the first rule in front of there that hides it. -/
def parameterLabel? (binary : Binary) (facts : FunctionFacts) (rules : List FunctionRule)
    (index : Nat) : Option String :=
  ((rules.take (stop binary facts rules)).find? (hidesParameter binary facts index)).map
    fun rule => rule.header.label

variable {binary : Binary} {facts : FunctionFacts} {rule : FunctionRule}

/-- A rule that hides the whole function labels it, and no parameter. -/
theorem labels_cons_of_hidesWhole (hides : hidesWhole binary facts rule = true)
    (rest : List FunctionRule) :
    wholeLabel? binary facts (rule :: rest) = some rule.header.label ∧
      ∀ index, parameterLabel? binary facts (rule :: rest) index = none := by
  have first : stop binary facts (rule :: rest) = 0 := by
    rw [stop, List.findIdx_cons, hides, cond_true]
  simp only [wholeLabel?, parameterLabel?, first, List.getElem?_cons_zero, List.take_zero,
    List.find?_nil, Option.map_some, Option.map_none, implies_true, and_self]

/-- Any other rule labels the parameters that it hides, and leaves the rest to the rules behind it. -/
theorem labels_cons_of_not_hidesWhole (passes : hidesWhole binary facts rule = false)
    (rest : List FunctionRule) :
    wholeLabel? binary facts (rule :: rest) = wholeLabel? binary facts rest ∧
      ∀ index, parameterLabel? binary facts (rule :: rest) index =
        (if hidesParameter binary facts index rule then some rule.header.label else none).or
          (parameterLabel? binary facts rest index) := by
  have later : stop binary facts (rule :: rest) = stop binary facts rest + 1 := by
    rw [stop, List.findIdx_cons, passes, cond_false, stop]
  refine ⟨?_, fun index => ?_⟩
  · rw [wholeLabel?, later, List.getElem?_cons_succ, wholeLabel?]
  · rw [parameterLabel?, later, List.take_succ_cons, List.find?_cons, parameterLabel?]
    cases hidesParameter binary facts index rule <;> rfl

/-! ## The walk through the rules -/

/-- A rule about parameters labels those that it covers and that have no label. -/
theorem labelParameters_eq_orLabel (rule : FunctionRule) (facts : FunctionFacts)
    (parameters : List ParameterDifference) :
    labelParameters rule facts parameters = parameters.map fun parameter =>
      parameter.orLabel
        (if facts.parameterTypes[parameter.index]?.any (rule.suppressesParameter parameter.index) then
          some rule.header.label else none) := by
  rw [labelParameters]
  refine List.map_congr_left fun parameter _ => ?_
  obtain ⟨index, name, change, label?⟩ := parameter
  dsimp only [ParameterDifference.isSuppressed, ParameterDifference.orLabel]
  cases facts.parameterTypes[index]?.any (rule.suppressesParameter index) <;> cases label? <;> rfl

/-- A label for which there is no rule changes nothing. -/
theorem map_orLabel_none (parameters : List ParameterDifference) :
    parameters.map (fun parameter => parameter.orLabel none) = parameters := by
  have same (parameter : ParameterDifference) : parameter.orLabel none = parameter := by
    rw [ParameterDifference.orLabel, Option.or_none]
  rw [List.map_congr_left fun parameter _ => same parameter, List.map_id']

/-- Of two labels for parameters, one after the other, the first counts. -/
theorem map_orLabel_orLabel (first second : Nat → Option String)
    (parameters : List ParameterDifference) :
    (parameters.map fun parameter => parameter.orLabel (first parameter.index)).map
        (fun parameter => parameter.orLabel (second parameter.index)) =
      parameters.map fun parameter =>
        parameter.orLabel ((first parameter.index).or (second parameter.index)) := by
  rw [List.map_map]
  refine List.map_congr_left fun parameter _ => ?_
  simp only [Function.comp_apply, ParameterDifference.orLabel, Option.or_assoc]

/-- The walk through the rules is the two searches, for a function with whatever labels.

Proof: by induction over the rules, for all labels so far. A rule that ends the walk is the first one of
the search for the whole function, and nothing stands in front of it. -/
theorem labelFunction_eq (context : Context) (facts : FunctionFacts) (rules : List FunctionRule)
    (difference : FunctionDifference) :
    labelFunction context facts rules difference =
      { difference with
        suppressedBy := (wholeLabel? context.binary facts rules).or difference.suppressedBy
        parameters := difference.parameters.map fun parameter =>
          parameter.orLabel (parameterLabel? context.binary facts rules parameter.index) } := by
  induction rules generalizing difference with
  | nil => simp only [labelFunction, wholeLabel?, parameterLabel?, List.getElem?_nil, List.take_nil,
      List.find?_nil, Option.map_none, Option.none_or, map_orLabel_none]
  | cons rule rest inductionHypothesis =>
    rw [labelFunction]
    cases whole : rule.parameters.isEmpty with
    | true =>
      have spares (index : Nat) : hidesParameter context.binary facts index rule = false := by
        simp only [hidesParameter, whole, Bool.not_true, Bool.false_and]
      cases applies : rule.suppresses context.binary facts Changes.onlySubtype true with
      | true =>
        have hides : hidesWhole context.binary facts rule = true := by
          rw [hidesWhole, whole, applies, Bool.and_self]
        obtain ⟨label, parameters⟩ := labels_cons_of_hidesWhole hides rest
        simp only [if_true, label, parameters, Option.some_or, map_orLabel_none]
      | false =>
        have passes : hidesWhole context.binary facts rule = false := by
          rw [hidesWhole, applies, Bool.and_false]
        obtain ⟨label, parameters⟩ := labels_cons_of_not_hidesWhole passes rest
        simp only [if_true, Bool.false_eq_true, if_false, inductionHypothesis, label, parameters, spares,
          Option.none_or]
    | false =>
      have passes : hidesWhole context.binary facts rule = false := by
        rw [hidesWhole, whole, Bool.false_and]
      obtain ⟨label, parameters⟩ := labels_cons_of_not_hidesWhole passes rest
      cases applies : rule.suppresses context.binary facts Changes.onlySubtype false with
      | true =>
        have hides (index : Nat) : hidesParameter context.binary facts index rule =
            facts.parameterTypes[index]?.any (rule.suppressesParameter index) := by
          rw [hidesParameter, whole, applies, Bool.not_false, Bool.and_self, Bool.true_and]
        have both := map_orLabel_orLabel
          (fun index => if facts.parameterTypes[index]?.any (rule.suppressesParameter index) then
            some rule.header.label else none)
          (parameterLabel? context.binary facts rest) difference.parameters
        simp only [Bool.false_eq_true, if_false, if_true, inductionHypothesis, label, parameters, hides,
          labelParameters_eq_orLabel]
        rw [both]
      | false =>
        have spares (index : Nat) : hidesParameter context.binary facts index rule = false := by
          rw [hidesParameter, applies, Bool.and_false, Bool.false_and]
        simp only [Bool.false_eq_true, if_false, inductionHypothesis, label, parameters, spares,
          Option.none_or]

/-! ## What is found before any rule is applied -/

/-- What is found about a function has no labels, neither as a whole nor on a parameter.

Proof: the run is related to itself, whatever its comparisons return. -/
theorem bare_unlabelledFunction (comparison : TypeComparison) (first second : Side) (key : String)
    (old new : Bound FunctionDeclaration) (memory : Memory) :
    (unlabelledFunction comparison first second key old new memory).1.suppressedBy = none ∧
      ∀ parameter ∈ (unlabelledFunction comparison first second key old new memory).1.parameters,
        parameter.suppressedBy = none := by
  have related : TypeComparison.Relates Eq (FunctionDifference.Alike fun _ _ => True)
      (unlabelledFunction comparison first second key old new)
      (unlabelledFunction comparison first second key old new) := by
    refine relates_unlabelledFunction rfl rfl key old new fun pair _ => ?_
    rintro between _ rfl
    refine ⟨?_, rfl⟩
    cases (comparison.compare pair.1 pair.2 .direct between).1 with
    | none => exact .none
    | some difference => exact .some trivial
  have alike := (related memory memory rfl).1
  refine ⟨alike.leftBare, fun parameter member => ?_⟩
  exact (List.forall₂_same.mp alike.parameters parameter member).leftBare

/-- A parameter that the function does not have is not hidden by any rule, so it gets no label. -/
theorem parameterLabel?_eq_none {index : Nat} (beyond : facts.parameterTypes.length ≤ index)
    (rules : List FunctionRule) : parameterLabel? binary facts rules index = none := by
  rw [parameterLabel?, Option.map_eq_none_iff, List.find?_eq_none]
  intro rule _
  rw [hidesParameter, List.getElem?_eq_none beyond, Option.any_none, Bool.and_false]
  exact Bool.false_ne_true

/-- What rules about functions make of a change that was found. The whole gets the label of the first
rule that hides it, and a parameter that of the first rule, in front of that one, that hides the
parameter. Where there is no such rule, there is no label, as for a parameter that the old function does
not have. Everything else stays as it was found. -/
theorem labelFunction_unlabelledFunction (context : Context) (comparison : TypeComparison)
    (first second : Side) (key : String) (old new : Bound FunctionDeclaration) (memory : Memory) :
    let facts := first.functionFacts old
    let found := (unlabelledFunction comparison first second key old new memory).1
    labelFunction context facts context.functionRules found =
        { found with
          suppressedBy := wholeLabel? context.binary facts context.functionRules
          parameters := found.parameters.map fun parameter =>
            { parameter with
              suppressedBy :=
                parameterLabel? context.binary facts context.functionRules parameter.index } } ∧
      ∀ index, old.1.parameters.length ≤ index →
        parameterLabel? context.binary facts context.functionRules index = none := by
  intro facts found
  obtain ⟨bare, parametersBare⟩ :=
    bare_unlabelledFunction comparison first second key old new memory
  refine ⟨?_, fun index beyond => parameterLabel?_eq_none ?_ _⟩
  · have labels : (found.parameters.map fun parameter => parameter.orLabel
          (parameterLabel? context.binary facts context.functionRules parameter.index)) =
        found.parameters.map fun parameter =>
          { parameter with
            suppressedBy :=
              parameterLabel? context.binary facts context.functionRules parameter.index } :=
      List.map_congr_left fun parameter member => by
        rw [ParameterDifference.orLabel, parametersBare parameter member, Option.none_or]
    rw [labelFunction_eq, labels, bare, Option.or_none]
  · simpa only [facts, Side.functionFacts, List.length_map] using beyond

end Difference

end Abiscope
