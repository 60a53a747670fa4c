import Abiscope.Proofs.ReachableChanges
import Abiscope.Suppression
import Mathlib.Data.List.Find

/-!
# When a verdict does not depend on history

Whether anything about two types is left to report may depend on what was compared before. A rule may
ask whether members were inserted and nothing else changed, and below a cut less seems to have changed
than elsewhere; or it may ask how a type is reached, and a pair on a circle is cut the second time even
if it is reached in another way then. What an earlier comparison remembered was cut at other places.

Rules that ask for neither judge a pair by the pair alone. Then the pairs that no rule hides are the
ones that pass, and what is left to report is what they expose.
-/

namespace Abiscope

/-! ## Changes of enumerators -/

/-- A change that adds an enumerator or gives it another value. -/
def TypeChange.isAboutEnumerator : TypeChange → Bool
  | .enumeratorRevalued .. | .enumeratorAdded .. => true
  | _ => false

namespace TypeGraph

open TypeChange (ifDiffer isAboutEnumerator)

theorem any_ifDiffer {α : Type} [BEq α] (old new : α) (change : α → α → TypeChange)
    (asked : TypeChange → Bool) :
    (ifDiffer old new change).any asked = (!(old == new) && asked (change old new)) := by
  rw [ifDiffer]
  cases old == new <;> simp

/-- The changes of a record are not about enumerators. -/
theorem recordChanges_any (first second : TypeGraph) (old new : Record) :
    (recordChanges first second old new).any isAboutEnumerator = false := by
  have members : (memberChanges first second old new).any isAboutEnumerator = false := by
    rw [memberChanges, List.any_append, Bool.or_eq_false_iff]
    constructor
    · rw [List.any_flatMap, List.any_eq_false]
      rintro member _
      cases new.member? member.name with
      | none => simp [isAboutEnumerator]
      | some counterpart => simp [any_ifDiffer, isAboutEnumerator]
    · rw [List.any_filterMap, List.any_eq_false]
      rintro member _
      cases (old.member? member.name).isNone <;> simp [isAboutEnumerator]
  rw [recordChanges]
  cases old.bothComplete new with
  | false => simp [any_ifDiffer, isAboutEnumerator]
  | true => simp [any_ifDiffer, isAboutEnumerator, members]

/-- Enumerators change in enumerations only. -/
theorem localChanges_any {first second : TypeGraph} {old new : Nat}
    (found : (localChanges first second old new).any isAboutEnumerator = true) :
    ∃ oldEnumeration newEnumeration, first.node old = .enumeration oldEnumeration ∧
      second.node new = .enumeration newEnumeration := by
  rw [localChanges] at found
  cases oldNode : first.node old <;> cases newNode : second.node new <;>
    rw [oldNode, newNode] at found
  case enumeration.enumeration old new => exact ⟨old, new, rfl, rfl⟩
  case record.record old new =>
    simp only [recordChanges_any, Bool.false_eq_true] at found
  all_goals simp [any_ifDiffer, isAboutEnumerator] at found

end TypeGraph

namespace TypeComparison

variable {comparison : TypeComparison}

/-- Whether anything is left to report about a pair of types does not depend on the comparisons before.
-/
def Steady (comparison : TypeComparison) (pair : Nat × Nat) : Prop :=
  ∃ verdict, ∀ calls, (comparison.compare pair.1 pair.2 .direct
    (comparison.memoryAfter calls)).1.any TypeDifference.isReportable = verdict

/-- A judgement that neither asks how a type is reached nor where members were inserted. -/
def IgnoresPaths (label? : Suppression.TypeFacts → Option String) : Prop :=
  ∀ facts reach inserted, label? { facts with reach := reach, inserted := inserted } = label? facts

/-- Among some findings anything is reportable if one of them is. -/
theorem any_isReportable (findings : Findings) :
    findings.any TypeDifference.isReportable = findings.anyReportable := by
  induction findings with
  | empty => rfl
  | cons role finding inside beside _ inductionHypothesis =>
    simp only [Findings.any, Findings.anyReportable, inductionHypothesis,
      TypeDifference.isReportable, TypeDifference.isSuppressed]

/-- Where enumerators changed and nothing else did, there are no parts. -/
theorem partsOf_of_changedEnumerators {part : TypePart} {names : List String}
    (found : changedEnumerators (comparison.changesAt part.pair) .empty = some names) :
    comparison.partsOf part = [] := by
  have expected : (comparison.changesAt part.pair).any TypeChange.isAboutEnumerator = true := by
    rw [changedEnumerators] at found
    simp only [Findings.isEmpty, Bool.true_and, Option.ite_none_right_eq_some, Bool.and_eq_true,
      Bool.not_eq_true', List.all_eq_true] at found
    obtain ⟨⟨changed, all⟩, _⟩ := found
    cases changes : comparison.changesAt part.pair with
    | nil =>
      rw [changes] at changed
      contradiction
    | cons change rest =>
      have first := all change (by rw [changes]; exact List.mem_cons_self)
      rw [List.any_cons, Bool.or_eq_true]
      left
      cases change <;> first | rfl | contradiction
  obtain ⟨old, new, oldNode, newNode⟩ := TypeGraph.localChanges_any expected
  rw [partsOf, show comparison.first.node part.old = _ from oldNode,
    show comparison.second.node part.new = _ from newNode]
  rfl

/-- Which enumerators changed does not depend on what was found about parts, if only something that has
parts has findings about them. -/
theorem changedEnumerators_inside {part : TypePart} {inside : Findings}
    (leaf : comparison.partsOf part = [] → inside = .empty) :
    changedEnumerators (comparison.changesAt part.pair) inside =
      changedEnumerators (comparison.changesAt part.pair) .empty := by
  cases inside with
  | empty => rfl
  | cons role finding inner beside =>
    cases found : changedEnumerators (comparison.changesAt part.pair) .empty with
    | none => simp [changedEnumerators, Findings.isEmpty]
    | some names => exact absurd (leaf (partsOf_of_changedEnumerators found)) (by simp)

/-- The label that a pair has if it is reached directly and nothing differs inside it. -/
def bareLabel? (comparison : TypeComparison) (pair : Nat × Nat) : Option String :=
  comparison.label? (comparison.factsOf ⟨"", pair.1, pair.2, .direct⟩ (comparison.changesAt pair)
    .empty)

/-- A judgement that ignores paths judges a pair by the pair alone. -/
theorem label?_factsOf (ignores : IgnoresPaths comparison.label?) {part : TypePart}
    {inside : Findings} (leaf : comparison.partsOf part = [] → inside = .empty) :
    comparison.label? (comparison.factsOf part (comparison.changesAt part.pair) inside) =
      comparison.bareLabel? part.pair := by
  have enumerators := changedEnumerators_inside leaf
  rw [bareLabel?, ← ignores (comparison.factsOf ⟨"", part.pair.1, part.pair.2, .direct⟩ _ _)
    part.reach (insertedOffsets (comparison.changesAt part.pair) inside)]
  simp only [factsOf, enumerators]
  rfl

/-- What is judged is left to report if it has no label and itself or a part of it has changes that are
left. -/
theorem isReportable_judge (comparison : TypeComparison) (part : TypePart) (inside : Findings) :
    (comparison.judge part inside).any TypeDifference.isReportable =
      ((comparison.label? (comparison.factsOf part (comparison.changesAt part.pair) inside)).isNone &&
        (!(comparison.changesAt part.pair).isEmpty || inside.anyReportable)) := by
  rw [judge, show comparison.first.localChanges comparison.second part.old part.new =
    comparison.changesAt part.pair from rfl]
  cases comparison.changesAt part.pair <;> cases inside <;>
    simp [Findings.isEmpty, Findings.anyReportable, TypeDifference.isReportable,
      TypeDifference.isSuppressed, Finding.isSuppressed]

/-- The question whether anything is left to report. The pairs without a label pass. -/
def reportable (comparison : TypeComparison) (ignores : IgnoresPaths comparison.label?) :
    comparison.Question where
  holds := TypeDifference.isReportable
  passes pair := comparison.bareLabel? pair = none
  answered part inside leaf := by
    rw [any_isReportable, isReportable_judge, label?_factsOf ignores leaf, Bool.and_eq_true,
      Option.isNone_iff_eq_none, Bool.or_eq_true, Bool.not_eq_true', ne_eq, List.isEmpty_eq_false_iff]

/-- Judgements that ignore paths are steady.

Proof: what is left to report is what the unlabelled pairs expose, from whatever memory. -/
theorem steady_of_ignoresPaths (comparison : TypeComparison)
    (ignores : IgnoresPaths comparison.label?) (pair : Nat × Nat) : comparison.Steady pair := by
  classical
  refine ⟨decide (comparison.Exposes (comparison.reportable ignores).passes pair), fun calls => ?_⟩
  rw [Bool.eq_iff_iff, decide_eq_true_iff]
  exact ((comparison.reportable ignores).settles_memoryAfter calls).compare_any pair.1 pair.2 .direct

end TypeComparison

namespace Suppression

/-- A rule about types that asks neither how a type is reached nor where members were inserted. -/
def TypeRule.IgnoresPaths (rule : TypeRule) : Prop := rule.reach = none ∧ rule.insertions = []

/-- The labels of such rules ignore paths. -/
theorem Context.ignoresPaths_typeLabel? (context : Context)
    (ignore : ∀ rule ∈ context.typeRules, rule.IgnoresPaths) :
    TypeComparison.IgnoresPaths context.typeLabel? := by
  intro facts reach inserted
  rw [typeLabel?, typeLabel?]
  congr 1
  refine List.find?_congr fun rule member => ?_
  obtain ⟨reachFree, insertionFree⟩ := ignore rule member
  simp only [TypeRule.suppresses, reachFree, TypeRule.acceptsInsertions, insertionFree,
    TypeRule.acceptsEnumerators, List.isEmpty_nil, Option.all_none, Bool.true_or]

end Suppression

end Abiscope
