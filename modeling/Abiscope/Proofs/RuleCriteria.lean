import Abiscope.Suppression
import Mathlib.Tactic.Tauto

/-!
# Criteria one by one

Rules of the three kinds ask for different things, but all in one manner: a rule with at least one
criterion suppresses a change exactly if each criterion accepts it, and a criterion that a rule does not
have accepts by itself. The criteria are listed here once for all kinds of rules. What a rule of some
kind cannot ask for it does not have, and it accepts whatever there is.
-/

namespace Abiscope.Suppression

/-- What a rule may ask for: the sort of change, the thing that changed, or the binary. -/
inductive Criterion where
  | changes
  | name
  | symbolName
  | symbolVersion
  | type
  | parameters
  | typeKind
  | reach
  | location
  | insertions
  | enumerators
  | soname
  | fileName
deriving DecidableEq, Repr

/-- What holds of every criterion, one by one. -/
theorem Criterion.forall_iff {holds : Criterion → Prop} :
    (∀ criterion, holds criterion) ↔
      (holds changes ∧ holds name ∧ holds symbolName ∧ holds symbolVersion ∧ holds type ∧
        holds parameters) ∧
      (holds typeKind ∧ holds reach ∧ holds location ∧ holds insertions ∧ holds enumerators) ∧
      holds soname ∧ holds fileName := by
  constructor
  · exact fun all => ⟨⟨all _, all _, all _, all _, all _, all _⟩,
      ⟨all _, all _, all _, all _, all _⟩, all _, all _⟩
  · rintro ⟨⟨_, _, _, _, _, _⟩, ⟨_, _, _, _, _⟩, _, _⟩ criterion
    cases criterion <;> assumption

/-- What holds of some criterion, one by one. -/
theorem Criterion.exists_iff {holds : Criterion → Prop} :
    (∃ criterion, holds criterion) ↔
      (holds changes ∨ holds name ∨ holds symbolName ∨ holds symbolVersion ∨ holds type ∨
        holds parameters) ∨
      (holds typeKind ∨ holds reach ∨ holds location ∨ holds insertions ∨ holds enumerators) ∨
      holds soname ∨ holds fileName := by
  constructor
  · rintro ⟨criterion, found⟩
    cases criterion <;> simp only [found, true_or, or_true]
  · rintro ((found | found | found | found | found | found) |
      (found | found | found | found | found) | found | found) <;> exact ⟨_, found⟩

namespace FunctionRule

/-- Whether a rule about functions has a criterion. -/
def has (rule : FunctionRule) : Criterion → Bool
  | .changes => rule.changes != {}
  | .name => rule.name.isPresent
  | .symbolName => rule.symbolName.isPresent
  | .symbolVersion => rule.symbolVersion.isPresent
  | .type => rule.resultType.isPresent
  | .parameters => !rule.parameters.isEmpty
  | .soname => rule.header.soname.isSet
  | .fileName => rule.header.fileName.isSet
  | .typeKind | .reach | .location | .insertions | .enumerators => false

/-- Whether a criterion of a rule accepts a change of a function. -/
def accepts (rule : FunctionRule) (binary : Binary) (facts : FunctionFacts) (change : Changes)
    (checkParameters : Bool) : Criterion → Bool
  | .changes => rule.changes.meets change
  | .name => rule.acceptsName facts
  | .symbolName => rule.acceptsSymbol facts
  | .symbolVersion => rule.acceptsVersion facts
  | .type => rule.acceptsResult facts
  | .parameters => !checkParameters || rule.acceptsParameters facts
  | .soname => !rule.header.soname.isSet || rule.header.soname.accepts binary.soname
  | .fileName => !rule.header.fileName.isSet || rule.header.fileName.accepts binary.path
  | .typeKind | .reach | .location | .insertions | .enumerators => true

/-- A rule about functions asks for something exactly if it has some criterion. -/
theorem hasCriteria_iff (rule : FunctionRule) :
    rule.hasCriteria = true ↔ ∃ criterion, rule.has criterion = true := by
  rw [Criterion.exists_iff]
  simp only [has, hasCriteria, Header.isConfined, Bool.or_eq_true, Bool.false_eq_true, or_false,
    false_or, or_assoc]

/-- A rule about functions suppresses a change exactly if it has a criterion and all of them accept. -/
theorem suppresses_iff (rule : FunctionRule) (binary : Binary) (facts : FunctionFacts)
    (change : Changes) (checkParameters : Bool) :
    rule.suppresses binary facts change checkParameters = true ↔
      (∃ criterion, rule.has criterion = true) ∧
        ∀ criterion, rule.accepts binary facts change checkParameters criterion = true := by
  rw [← hasCriteria_iff, Criterion.forall_iff]
  simp only [accepts, suppresses, Header.concerns, Bool.and_eq_true, true_and, and_true]
  tauto

end FunctionRule

namespace VariableRule

/-- Whether a rule about variables has a criterion. -/
def has (rule : VariableRule) : Criterion → Bool
  | .changes => rule.changes != {}
  | .name => rule.name.isPresent
  | .symbolName => rule.symbolName.isPresent
  | .symbolVersion => rule.symbolVersion.isPresent
  | .type => rule.type.isPresent
  | .soname => rule.header.soname.isSet
  | .fileName => rule.header.fileName.isSet
  | .parameters | .typeKind | .reach | .location | .insertions | .enumerators => false

/-- Whether a criterion of a rule accepts a change of a variable. -/
def accepts (rule : VariableRule) (binary : Binary) (facts : VariableFacts) (change : Changes) :
    Criterion → Bool
  | .changes => rule.changes.meets change
  | .name => rule.acceptsName facts
  | .symbolName => rule.acceptsSymbol facts
  | .symbolVersion => rule.acceptsVersion facts
  | .type => rule.acceptsType facts
  | .soname => !rule.header.soname.isSet || rule.header.soname.accepts binary.soname
  | .fileName => !rule.header.fileName.isSet || rule.header.fileName.accepts binary.path
  | .parameters | .typeKind | .reach | .location | .insertions | .enumerators => true

/-- A rule about variables asks for something exactly if it has some criterion. -/
theorem hasCriteria_iff (rule : VariableRule) :
    rule.hasCriteria = true ↔ ∃ criterion, rule.has criterion = true := by
  rw [Criterion.exists_iff]
  simp only [has, hasCriteria, Header.isConfined, Bool.or_eq_true, Bool.false_eq_true, or_false,
    false_or, or_assoc]

/-- A rule about variables suppresses a change exactly if it has a criterion and all of them accept. -/
theorem suppresses_iff (rule : VariableRule) (binary : Binary) (facts : VariableFacts)
    (change : Changes) :
    rule.suppresses binary facts change = true ↔
      (∃ criterion, rule.has criterion = true) ∧
        ∀ criterion, rule.accepts binary facts change criterion = true := by
  rw [← hasCriteria_iff, Criterion.forall_iff]
  simp only [accepts, suppresses, Header.concerns, Bool.and_eq_true, true_and, and_true]
  tauto

end VariableRule

namespace TypeRule

/-- Whether a rule about types has a criterion. -/
def has (rule : TypeRule) : Criterion → Bool
  | .name => rule.hasNameCriteria
  | .typeKind => rule.kind.isSome
  | .reach => rule.reach.isSome
  | .location => rule.hasLocationCriteria
  | .insertions => !rule.insertions.isEmpty
  | .enumerators => !rule.enumerators.isEmpty
  | .soname => rule.header.soname.isSet
  | .fileName => rule.header.fileName.isSet
  | .changes | .symbolName | .symbolVersion | .type | .parameters => false

/-- Whether a criterion of a rule accepts a change of a type. -/
def accepts (rule : TypeRule) (binary : Binary) (facts : TypeFacts) : Criterion → Bool
  | .name => rule.acceptsName facts.name
  | .typeKind => rule.kind.all (facts.kind == some ·)
  | .reach => rule.reach.all (·.admits facts.reach)
  | .location => rule.acceptsLocation facts.location
  | .insertions => rule.acceptsInsertions facts
  | .enumerators => rule.acceptsEnumerators facts
  | .soname => !rule.header.soname.isSet || rule.header.soname.accepts binary.soname
  | .fileName => !rule.header.fileName.isSet || rule.header.fileName.accepts binary.path
  | .changes | .symbolName | .symbolVersion | .type | .parameters => true

/-- A rule about types asks for something exactly if it has some criterion. -/
theorem hasCriteria_iff (rule : TypeRule) :
    rule.hasCriteria = true ↔ ∃ criterion, rule.has criterion = true := by
  rw [Criterion.exists_iff]
  simp only [has, hasCriteria, Header.isConfined, Bool.or_eq_true, Bool.false_eq_true, or_false,
    false_or, or_assoc]
  tauto

/-- A rule about types suppresses a change exactly if it has a criterion and all of them accept. -/
theorem suppresses_iff (rule : TypeRule) (binary : Binary) (facts : TypeFacts) :
    rule.suppresses binary facts = true ↔
      (∃ criterion, rule.has criterion = true) ∧
        ∀ criterion, rule.accepts binary facts criterion = true := by
  rw [← hasCriteria_iff, Criterion.forall_iff]
  simp only [accepts, suppresses, Header.concerns, Bool.and_eq_true, true_and, and_true]
  tauto

end TypeRule

end Abiscope.Suppression
