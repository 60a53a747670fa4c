import Abiscope.Proofs.FewerRules
import Abiscope.Proofs.MirroredDifferences
import Abiscope.Proofs.ReadingWithRules
import Abiscope.Proofs.RuleCriteria

/-!
# Rules that do not count

A comparison goes by its rules only through the labels that they give: to what is on one side only, to a
type that changed, however deep it lies, and to a function or variable that is on both sides. Where two
lists of rules give the same labels, they make the same difference.

A rule that asks for nothing gives no label, and neither does a rule that is for other binaries. Such a
rule may stand anywhere in a list. The searches for the first rule that applies pass over it, and so does
the walk through the rules about a changed function, which otherwise goes on or ends at each rule.
-/

namespace Abiscope

namespace Suppression

/-- Whether a rule has a criterion. -/
def has : Suppression → Criterion → Bool
  | aboutFunction rule => rule.has
  | aboutVariable rule => rule.has
  | aboutType rule => rule.has

/-- A rule asks for something exactly if it has some criterion. -/
theorem hasCriteria_iff_has (rule : Suppression) :
    rule.hasCriteria = true ↔ ∃ criterion, rule.has criterion = true := by
  cases rule with
  | aboutFunction own => exact own.hasCriteria_iff
  | aboutVariable own => exact own.hasCriteria_iff
  | aboutType own => exact own.hasCriteria_iff

/-- A pair of patterns was given, and a text does not satisfy it. -/
def PatternPair.Rejects (pair : PatternPair) (text : String) : Prop :=
  pair.isSet = true ∧ pair.accepts text = false

/-- A rule is for other binaries if it rejects the SONAME of a binary or the path of its file. -/
def Header.IsForOthers (header : Header) (binary : Binary) : Prop :=
  header.soname.Rejects binary.soname ∨ header.fileName.Rejects binary.path

theorem Header.concerns_eq_false_iff (header : Header) (binary : Binary) :
    header.concerns binary = false ↔ header.IsForOthers binary := by
  simp only [concerns, IsForOthers, PatternPair.Rejects, Bool.and_eq_false_iff, Bool.or_eq_false_iff,
    Bool.not_eq_false']

/-- A rule has no criterion at all, or is for other binaries. -/
def IsInert (rule : Suppression) (binary : Binary) : Prop :=
  (∀ criterion, rule.has criterion = false) ∨ rule.header.IsForOthers binary

variable {rule : Suppression} {binary : Binary}

/-- An inert rule asks for nothing or does not concern the binary. -/
theorem IsInert.idle (inert : rule.IsInert binary) :
    rule.hasCriteria = false ∨ rule.header.concerns binary = false := by
  refine inert.imp (fun none => ?_) (rule.header.concerns_eq_false_iff binary).mpr
  rw [← Bool.not_eq_true, hasCriteria_iff_has]
  rintro ⟨criterion, present⟩
  exact Bool.false_ne_true ((none criterion).symm.trans present)

/-- An inert rule about functions suppresses nothing. -/
theorem IsInert.suppresses_function (inert : rule.IsInert binary) {own : FunctionRule}
    (kind : rule.functionRule? = some own) (facts : FunctionFacts) (change : Changes)
    (checkParameters : Bool) : own.suppresses binary facts change checkParameters = false := by
  cases rule with
  | aboutFunction held =>
    rw [← Option.some.inj kind]
    rcases inert.idle with none | elsewhere
    · simp only [FunctionRule.suppresses, show held.hasCriteria = false from none, Bool.and_false,
        Bool.false_and]
    · simp only [FunctionRule.suppresses, show held.header.concerns binary = false from elsewhere,
        Bool.and_false, Bool.false_and]
  | aboutVariable _ => contradiction
  | aboutType _ => contradiction

/-- An inert rule about variables suppresses nothing. -/
theorem IsInert.suppresses_variable (inert : rule.IsInert binary) {own : VariableRule}
    (kind : rule.variableRule? = some own) (facts : VariableFacts) (change : Changes) :
    own.suppresses binary facts change = false := by
  cases rule with
  | aboutVariable held =>
    rw [← Option.some.inj kind]
    rcases inert.idle with none | elsewhere
    · simp only [VariableRule.suppresses, show held.hasCriteria = false from none, Bool.and_false,
        Bool.false_and]
    · simp only [VariableRule.suppresses, show held.header.concerns binary = false from elsewhere,
        Bool.and_false, Bool.false_and]
  | aboutFunction _ => contradiction
  | aboutType _ => contradiction

/-- An inert rule about types suppresses nothing. -/
theorem IsInert.suppresses_type (inert : rule.IsInert binary) {own : TypeRule}
    (kind : rule.typeRule? = some own) (facts : TypeFacts) : own.suppresses binary facts = false := by
  cases rule with
  | aboutType held =>
    rw [← Option.some.inj kind]
    rcases inert.idle with none | elsewhere
    · simp only [TypeRule.suppresses, show held.hasCriteria = false from none, Bool.false_and]
    · simp only [TypeRule.suppresses, show held.header.concerns binary = false from elsewhere,
        Bool.and_false, Bool.false_and]
  | aboutFunction _ => contradiction
  | aboutVariable _ => contradiction

/-- The first rule of some kind that applies is the same with and without a rule that does not apply. -/
theorem find?_filterMap_insert {ρ : Type} {kind : Suppression → Option ρ} {applies : ρ → Bool}
    (idle : ∀ own, kind rule = some own → applies own = false) (before after : List Suppression) :
    ((before ++ rule :: after).filterMap kind).find? applies =
      ((before ++ after).filterMap kind).find? applies := by
  rw [List.filterMap_append, List.filterMap_append]
  cases held : kind rule with
  | none => rw [List.filterMap_cons_none held]
  | some own =>
    rw [List.filterMap_cons_some held, List.find?_append, List.find?_append,
      List.find?_cons_of_neg (by rw [idle own held]; exact Bool.false_ne_true)]

end Suppression

namespace Difference

open Suppression (Binary Changes Context FunctionFacts FunctionRule)

/-! ## What a comparison takes from its rules -/

/-- Two contexts give the same labels. -/
structure LabelsAlike (one other : Context) : Prop where
  functions : one.functionLabel? = other.functionLabel?
  globals : one.variableLabel? = other.variableLabel?
  types : one.typeLabel? = other.typeLabel?
  changedFunctions : ∀ facts difference,
    labelFunction one facts one.functionRules difference =
      labelFunction other facts other.functionRules difference

namespace LabelsAlike

variable {one other : Context}

theorem functionEntity (alike : LabelsAlike one other) (change : Changes) (side : Side) :
    functionEntity one change side = functionEntity other change side := by
  funext key bound
  simp only [Difference.functionEntity, alike.functions]

theorem variableEntity (alike : LabelsAlike one other) (change : Changes) (side : Side) :
    variableEntity one change side = variableEntity other change side := by
  funext key bound
  simp only [Difference.variableEntity, alike.globals]

theorem unreferenced (alike : LabelsAlike one other) (change : Changes) (here there : Side) :
    unreferenced one change here there = unreferenced other change here there := by
  simp only [Difference.unreferenced, symbolLabel?, alike.functions, alike.globals]

theorem typeComparison (alike : LabelsAlike one other) (first second : Side) :
    typeComparison one first second = typeComparison other first second := by
  rw [Difference.typeComparison, Difference.typeComparison, alike.types]

theorem changedFunction (alike : LabelsAlike one other) (comparison : TypeComparison)
    (first second : Side) :
    changedFunction one comparison first second = changedFunction other comparison first second := by
  funext item
  simp only [Difference.changedFunction, alike.changedFunctions]

theorem changedVariable (alike : LabelsAlike one other) (comparison : TypeComparison)
    (first second : Side) :
    changedVariable one comparison first second = changedVariable other comparison first second := by
  funext item
  simp only [Difference.changedVariable, alike.globals]

theorem changed (alike : LabelsAlike one other) (first second : Side) :
    changed one first second = changed other first second := by
  simp only [Difference.changed, functionDifferences_eq_eachOf, variableDifferences_eq_eachOf,
    alike.typeComparison, alike.changedFunction, alike.changedVariable]

end LabelsAlike

variable (first second : Corpus) {suppressions others : List Suppression} (options : Options)

/-- Rules that give the same labels for the first binary make the same difference. -/
theorem ofCorpora_congr
    (alike : LabelsAlike ⟨suppressions, first.binary⟩ ⟨others, first.binary⟩) :
    ofCorpora first second suppressions options = ofCorpora first second others options := by
  unfold Corpus.binary at alike
  simp only [ofCorpora, alike.functionEntity, alike.variableEntity, alike.unreferenced, alike.changed]

/-! ## A rule that gives no label -/

/-- Of a context, the walk through the rules about a changed function needs the binary only. -/
theorem labelFunction_congr (one other : Context) (same : one.binary = other.binary)
    (facts : FunctionFacts) (rules : List FunctionRule) (difference : FunctionDifference) :
    labelFunction one facts rules difference = labelFunction other facts rules difference := by
  induction rules generalizing difference with
  | nil => rfl
  | cons rule rest inductionHypothesis => simp only [labelFunction, same, inductionHypothesis]

/-- The walk passes over a rule that does not apply. -/
theorem labelFunction_insert (context : Context) {facts : FunctionFacts} {rule : FunctionRule}
    (idle : ∀ checkParameters,
      rule.suppresses context.binary facts Changes.onlySubtype checkParameters = false)
    (before after : List FunctionRule) (difference : FunctionDifference) :
    labelFunction context facts (before ++ rule :: after) difference =
      labelFunction context facts (before ++ after) difference := by
  induction before generalizing difference with
  | nil => simp only [List.nil_append, labelFunction, idle, Bool.false_eq_true, if_false, ite_self]
  | cons head rest inductionHypothesis =>
    simp only [List.cons_append, labelFunction, inductionHypothesis]

/-- With and without an inert rule, all labels are the same. -/
theorem labelsAlike_insert {rule : Suppression} {binary : Binary} (inert : rule.IsInert binary)
    (before after : List Suppression) :
    LabelsAlike ⟨before ++ rule :: after, binary⟩ ⟨before ++ after, binary⟩ where
  functions := by
    funext facts change
    exact congrArg (Option.map _) (Suppression.find?_filterMap_insert
      (fun _ kind => inert.suppresses_function kind facts change true) before after)
  globals := by
    funext facts change
    exact congrArg (Option.map _) (Suppression.find?_filterMap_insert
      (fun _ kind => inert.suppresses_variable kind facts change) before after)
  types := by
    funext facts
    exact congrArg (Option.map _) (Suppression.find?_filterMap_insert
      (fun _ kind => inert.suppresses_type kind facts) before after)
  changedFunctions facts difference := by
    rw [labelFunction_congr ⟨before ++ rule :: after, binary⟩ ⟨before ++ after, binary⟩ rfl]
    simp only [Context.functionRules, List.filterMap_append]
    cases kind : rule.functionRule? with
    | none => rw [List.filterMap_cons_none kind]
    | some own =>
      rw [List.filterMap_cons_some kind]
      have idle (checkParameters : Bool) :
          own.suppresses binary facts Changes.onlySubtype checkParameters = false :=
        inert.suppresses_function kind facts _ checkParameters
      exact labelFunction_insert ⟨before ++ after, binary⟩ idle _ _ difference

/-- A rule that has no criterion, or that is not for the first binary, leaves a comparison as it is,
wherever it stands among the others.

Proof: no criterion of such a rule is ever asked, as it suppresses nothing. So it labels nothing, and a
difference depends on the rules through their labels. -/
theorem ofCorpora_insert_of_isInert (before after : List Suppression) {rule : Suppression}
    (inert : rule.IsInert first.binary) :
    ofCorpora first second (before ++ rule :: after) options =
      ofCorpora first second (before ++ after) options :=
  ofCorpora_congr first second options (labelsAlike_insert inert before after)

/-- Hides all changes of types of the binaries whose SONAME begins in some way. -/
def hidingTypesOf (beginning : String) : Suppression :=
  .aboutType { header := { soname := { only := Pattern.ofText ("^" ++ beginning) } } }

/-- The rule at two releases of a library of which a type changed and a function is lost: a rule about the
types of another library, between two rules about functions, does not matter. The same rule about this
library is not inert. -/
theorem ofCorpora_insert_of_isInert_linking :
    let older := linking "liblinks.so.1" 64 "drop"
    let newer := linking "liblinks.so.2" 96 "pop"
    (hidingTypesOf "libother").IsInert older.binary ∧ ¬(hidingTypesOf "liblinks").IsInert older.binary ∧
      ofCorpora older newer
          ([concealing "drop"] ++ hidingTypesOf "libother" :: [concealing "push"]) {} =
        ofCorpora older newer ([concealing "drop"] ++ [concealing "push"]) {} := by
  intro older newer
  have foreign : (hidingTypesOf "libother").IsInert older.binary :=
    Or.inr (Or.inl ⟨by decide, by decide +kernel⟩)
  have meant : ¬(hidingTypesOf "liblinks").IsInert older.binary := by
    intro inert
    rcases inert.idle with none | elsewhere
    · exact Bool.noConfusion (none.symm.trans (by decide : (hidingTypesOf "liblinks").hasCriteria = true))
    · exact Bool.noConfusion (elsewhere.symm.trans
        (by decide +kernel : (hidingTypesOf "liblinks").header.concerns older.binary = true))
  exact ⟨foreign, meant, ofCorpora_insert_of_isInert older newer {} _ _ foreign⟩

end Difference

end Abiscope
