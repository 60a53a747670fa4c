import Abiscope.Difference

/-!
# What rules hide of a function

Rules are applied to a changed function one after the other, and the first rule that hides the whole of
it ends this. What is left to report does not depend on the order in spite of that. A rule either
concerns the whole function or single parameters, and which of the two it is, and whether it applies,
does not depend on what was labelled before. So something is left exactly if no rule hides the whole
function, and the result, the symbol or a parameter that no rule hides has changes left.
-/

namespace Abiscope

namespace Difference

open Suppression (Binary Changes Context FunctionFacts FunctionRule)

/-- A rule without criteria on parameters that applies to a changed function. -/
def hidesWhole (binary : Binary) (facts : FunctionFacts) (rule : FunctionRule) : Bool :=
  rule.parameters.isEmpty && rule.suppresses binary facts Changes.onlySubtype true

/-- A rule with criteria on parameters that applies to a changed function, criteria on parameters aside,
and to one of its parameters. -/
def hidesParameter (binary : Binary) (facts : FunctionFacts) (index : Nat) (rule : FunctionRule) :
    Bool :=
  !rule.parameters.isEmpty && rule.suppresses binary facts Changes.onlySubtype false &&
    facts.parameterTypes[index]?.any (rule.suppressesParameter index)

/-- What is left of the parameters once a rule has labelled some. -/
theorem any_labelParameters (rule : FunctionRule) (facts : FunctionFacts)
    (parameters : List ParameterDifference) (asked : Nat → Bool) :
    ((labelParameters rule facts parameters).any fun parameter =>
        parameter.isReportable && asked parameter.index) =
      parameters.any fun parameter => parameter.isReportable &&
        (!(facts.parameterTypes[parameter.index]?.any (rule.suppressesParameter parameter.index)) &&
          asked parameter.index) := by
  rw [labelParameters, List.any_map]
  congr 1
  funext parameter
  cases labelled : parameter.suppressedBy <;>
    cases applies : facts.parameterTypes[parameter.index]?.any
      (rule.suppressesParameter parameter.index) <;>
    simp [ParameterDifference.isReportable, ParameterDifference.isSuppressed, labelled, applies]

/-- Something of a function is left to report exactly if no rule hides the whole of it, and its result,
its symbol or a parameter that no rule hides has changes left.

Proof: by induction over the rules, for all parameters labelled so far. -/
theorem isReportable_labelFunction (context : Context) (facts : FunctionFacts)
    (rules : List FunctionRule) (difference : FunctionDifference) :
    (labelFunction context facts rules difference).isReportable =
      (!difference.isSuppressed && !rules.any (hidesWhole context.binary facts) &&
        (difference.result.any TypeDifference.isReportable ||
          (difference.parameters.any fun parameter => parameter.isReportable &&
            !rules.any (hidesParameter context.binary facts parameter.index)) ||
          !difference.symbolChanges.isEmpty)) := by
  induction rules generalizing difference with
  | nil => simp [labelFunction, FunctionDifference.isReportable]
  | cons rule rest inductionHypothesis =>
    rw [labelFunction]
    cases whole : rule.parameters.isEmpty with
    | true =>
      have spares (index : Nat) : hidesParameter context.binary facts index rule = false := by
        simp [hidesParameter, whole]
      cases applies : rule.suppresses context.binary facts Changes.onlySubtype true with
      | true =>
        have hides : hidesWhole context.binary facts rule = true := by simp [hidesWhole, whole, applies]
        simp [hides, FunctionDifference.isReportable, FunctionDifference.isSuppressed]
      | false =>
        have passes : hidesWhole context.binary facts rule = false := by simp [hidesWhole, applies]
        simp [passes, spares, inductionHypothesis]
    | false =>
      have passes : hidesWhole context.binary facts rule = false := by simp [hidesWhole, whole]
      cases applies : rule.suppresses context.binary facts Changes.onlySubtype false with
      | true =>
        have hides (index : Nat) : hidesParameter context.binary facts index rule =
            facts.parameterTypes[index]?.any (rule.suppressesParameter index) := by
          simp [hidesParameter, whole, applies]
        have labelled := any_labelParameters rule facts difference.parameters fun index =>
          !rest.any (hidesParameter context.binary facts index)
        simp [passes, hides, inductionHypothesis, labelled, FunctionDifference.isSuppressed,
          Bool.not_or]
      | false =>
        have spares (index : Nat) : hidesParameter context.binary facts index rule = false := by
          simp [hidesParameter, applies]
        simp [passes, spares, inductionHypothesis]

/-- Labels change nothing else about a function: neither its key nor whether it changed. -/
theorem key_labelFunction (context : Context) (facts : FunctionFacts) (rules : List FunctionRule)
    (difference : FunctionDifference) :
    (labelFunction context facts rules difference).key = difference.key ∧
      (labelFunction context facts rules difference).hasChanges = difference.hasChanges := by
  induction rules generalizing difference with
  | nil => exact ⟨rfl, rfl⟩
  | cons rule rest inductionHypothesis =>
    rw [labelFunction]
    split
    · split
      · exact ⟨rfl, rfl⟩
      · exact inductionHypothesis difference
    · split
      · obtain ⟨key, changes⟩ := inductionHypothesis
          { difference with parameters := labelParameters rule facts difference.parameters }
        refine ⟨key, changes.trans ?_⟩
        simp only [FunctionDifference.hasChanges, labelParameters, List.isEmpty_map]
      · exact inductionHypothesis difference

end Difference

end Abiscope
