import Abiscope.Proofs.RuleCriteria

/-!
# Malformed patterns

A pattern that is malformed is not usable, and a criterion may be left with nothing else: no usable
pattern and no text of its own. Such a criterion is dead. It is there, so the rule asks for it, and it
cannot decide.

What a dead criterion does depends on what it is about. On a name, on the names of the binary and, but
for an empty text, on the type of a result it accepts nothing, so that the rule suppresses nothing. On
the version of a symbol, on the type of a variable, on the name of a type and on a source location it
accepts everything as soon as there is something to be asked about, so that the rule hides all that its
other criteria accept.
-/

namespace Abiscope

/-- A pattern was written but is malformed. -/
def Pattern.IsMalformed (pattern : Pattern) : Prop := pattern.isSet = true ∧ pattern.usable = none

namespace Suppression

/-! ## Dead criteria -/

/-- Some pattern of a pair was written, and none is usable. -/
def PatternPair.IsDead (pair : PatternPair) : Prop :=
  pair.isSet = true ∧ pair.only.usable = none ∧ pair.except.usable = none

/-- Criteria on a name without a name and with malformed patterns only. -/
def NameCriteria.IsDead (criteria : NameCriteria) : Prop :=
  criteria.patterns.IsDead ∧ isGiven criteria.exact = false

/-- Criteria on a text without a text and with a malformed pattern. -/
def TextCriteria.IsDead (criteria : TextCriteria) : Prop :=
  criteria.pattern.IsMalformed ∧ isGiven criteria.exact = false

/-- A criterion of a rule about functions is dead. -/
def FunctionRule.IsDead (rule : FunctionRule) : Criterion → Prop
  | .name => rule.name.IsDead
  | .symbolName => rule.symbolName.IsDead
  | .symbolVersion => rule.symbolVersion.IsDead
  | .type => rule.resultType.IsDead
  | .soname => rule.header.soname.IsDead
  | .fileName => rule.header.fileName.IsDead
  | .changes | .parameters | .typeKind | .reach | .location | .insertions | .enumerators => False

/-- A criterion of a rule about variables is dead. -/
def VariableRule.IsDead (rule : VariableRule) : Criterion → Prop
  | .name => rule.name.IsDead
  | .symbolName => rule.symbolName.IsDead
  | .symbolVersion => rule.symbolVersion.IsDead
  | .type => rule.type.IsDead
  | .soname => rule.header.soname.IsDead
  | .fileName => rule.header.fileName.IsDead
  | .changes | .parameters | .typeKind | .reach | .location | .insertions | .enumerators => False

/-- A criterion of a rule about types is dead. Files to keep without a name do not count. -/
def TypeRule.IsDead (rule : TypeRule) : Criterion → Prop
  | .name => rule.namePatterns.IsDead ∧ isGiven rule.name = false
  | .location => rule.keptFilePattern.IsMalformed ∧ ∀ file ∈ rule.keptFiles, file = ""
  | .soname => rule.header.soname.IsDead
  | .fileName => rule.header.fileName.IsDead
  | .changes | .symbolName | .symbolVersion | .type | .parameters | .typeKind | .reach | .insertions
  | .enumerators => False

/-! ## What dead criteria accept -/

/-- A pair of malformed patterns accepts nothing. -/
theorem PatternPair.IsDead.accepts {pair : PatternPair} (dead : pair.IsDead) (text : String) :
    pair.accepts text = false := by
  rw [PatternPair.accepts, dead.2.1, dead.2.2]
  rfl

/-- A pair of malformed patterns objects to nothing. -/
theorem PatternPair.IsDead.permits {pair : PatternPair} (dead : pair.IsDead) (text : String) :
    pair.permits text = true := by
  rw [PatternPair.permits, Pattern.matches?, Pattern.matches?, dead.2.1, dead.2.2]
  rfl

/-- A binary is never one that a dead pair of patterns asks for. -/
theorem PatternPair.IsDead.concerns {pair : PatternPair} (dead : pair.IsDead) (text : String) :
    (!pair.isSet || pair.accepts text) = false := by
  rw [dead.1, dead.accepts]
  rfl

namespace NameCriteria

/-- Dead criteria on a name are there. -/
theorem IsDead.isPresent {criteria : NameCriteria} (dead : criteria.IsDead) :
    criteria.isPresent = true := by
  rw [NameCriteria.isPresent, dead.1.1, Bool.or_true]

/-- Dead criteria on a name accept nothing. -/
theorem IsDead.accepts {criteria : NameCriteria} (dead : criteria.IsDead) (name : String) :
    criteria.accepts name = false := by
  obtain ⟨⟨_, only, except⟩, exact_⟩ := dead
  rw [NameCriteria.accepts, Pattern.matches?, Pattern.matches?, only, except, exact_]
  rfl

end NameCriteria

namespace TextCriteria

/-- Dead criteria on a text are there. -/
theorem IsDead.isPresent {criteria : TextCriteria} (dead : criteria.IsDead) :
    criteria.isPresent = true := by
  rw [TextCriteria.isPresent, dead.1.1, Bool.or_true]

/-- Dead criteria on a text permit everything. -/
theorem IsDead.permits {criteria : TextCriteria} (dead : criteria.IsDead) (text : String) :
    criteria.permits text = true := by
  obtain ⟨⟨_, pattern⟩, exact_⟩ := dead
  rw [TextCriteria.permits, Pattern.matches?, pattern, exact_]
  rfl

end TextCriteria

/-- What a dead criterion of a rule about functions lets pass: on the version, any function with a symbol;
on the result, an empty type for an empty text. -/
def FunctionRule.LetsPass (rule : FunctionRule) (facts : FunctionFacts) : Criterion → Prop
  | .symbolVersion => facts.symbol.isSome = true
  | .type => rule.resultType.exact = some "" ∧ facts.resultType = some ""
  | _ => False

/-- What a dead criterion of a rule about variables lets pass: on the version, any variable with a symbol;
on the type, any variable of a known type. -/
def VariableRule.LetsPass (facts : VariableFacts) : Criterion → Prop
  | .symbolVersion => facts.symbol.isSome = true
  | .type => facts.type.isSome = true
  | _ => False

/-- What a dead criterion of a rule about types lets pass: on the name, any type; on the location, any type
with a known one, other than the files to keep. -/
def TypeRule.LetsPass (rule : TypeRule) (facts : TypeFacts) : Criterion → Prop
  | .name => True
  | .location => ∃ location, facts.location = some location ∧
    ∀ file ∈ rule.keptFiles, location.baseName ≠ file ∧ location.file ≠ file
  | _ => False

/-- A dead criterion of a rule about functions is there, and accepts what it lets pass. -/
theorem FunctionRule.IsDead.accepts_iff {rule : FunctionRule} {criterion : Criterion}
    (dead : rule.IsDead criterion) (binary : Binary) (facts : FunctionFacts) (change : Changes)
    (checkParameters : Bool) :
    rule.has criterion = true ∧
      (rule.accepts binary facts change checkParameters criterion = true ↔
        rule.LetsPass facts criterion) := by
  cases criterion with
  | changes | parameters | typeKind | reach | location | insertions | enumerators => contradiction
  | name =>
    refine ⟨NameCriteria.IsDead.isPresent dead, ?_⟩
    simp only [FunctionRule.accepts, FunctionRule.acceptsName, NameCriteria.IsDead.isPresent dead,
      NameCriteria.IsDead.accepts dead, LetsPass, Bool.not_true, Bool.and_false, Bool.or_self,
      Bool.false_eq_true]
  | symbolName =>
    refine ⟨NameCriteria.IsDead.isPresent dead, ?_⟩
    simp only [FunctionRule.accepts, FunctionRule.acceptsSymbol, NameCriteria.IsDead.isPresent dead,
      NameCriteria.IsDead.accepts dead, LetsPass, Bool.not_true, Bool.and_false, Bool.false_and,
      Bool.or_self, Bool.false_eq_true]
  | symbolVersion =>
    refine ⟨TextCriteria.IsDead.isPresent dead, ?_⟩
    rw [FunctionRule.accepts, FunctionRule.acceptsVersion, TextCriteria.IsDead.isPresent dead, LetsPass]
    simp only [TextCriteria.IsDead.permits dead, Bool.not_true, Bool.false_or, Option.any_true]
  | type =>
    refine ⟨TextCriteria.IsDead.isPresent dead, ?_⟩
    rw [FunctionRule.accepts, FunctionRule.acceptsResult, TextCriteria.IsDead.isPresent dead, LetsPass]
    obtain ⟨⟨_, pattern⟩, exact_⟩ := dead
    have undecided (type : String) : rule.resultType.pattern.matches? type = none := by
      rw [Pattern.matches?, pattern, Option.map_none]
    simp only [undecided, Option.getD_none, Bool.not_true, Bool.false_or, Option.any_eq_true,
      beq_iff_eq]
    constructor
    · rintro ⟨type, known, same⟩
      rw [same, isGiven, Option.any_some, bne_eq_false_iff_eq] at exact_
      rw [same, known, exact_]
      exact ⟨rfl, rfl⟩
    · rintro ⟨same, known⟩
      exact ⟨"", known, same⟩
  | soname => exact ⟨dead.1, Bool.eq_false_iff.mp (dead.concerns _), False.elim⟩
  | fileName => exact ⟨dead.1, Bool.eq_false_iff.mp (dead.concerns _), False.elim⟩

/-- A dead criterion of a rule about variables is there, and accepts what it lets pass. -/
theorem VariableRule.IsDead.accepts_iff {rule : VariableRule} {criterion : Criterion}
    (dead : rule.IsDead criterion) (binary : Binary) (facts : VariableFacts) (change : Changes) :
    rule.has criterion = true ∧
      (rule.accepts binary facts change criterion = true ↔ LetsPass facts criterion) := by
  cases criterion with
  | changes | parameters | typeKind | reach | location | insertions | enumerators => contradiction
  | name =>
    refine ⟨NameCriteria.IsDead.isPresent dead, ?_⟩
    simp only [VariableRule.accepts, VariableRule.acceptsName, NameCriteria.IsDead.isPresent dead,
      NameCriteria.IsDead.accepts dead, LetsPass, Bool.not_true, Bool.and_false, Bool.or_self,
      Bool.false_eq_true]
  | symbolName =>
    refine ⟨NameCriteria.IsDead.isPresent dead, ?_⟩
    simp only [VariableRule.accepts, VariableRule.acceptsSymbol, NameCriteria.IsDead.isPresent dead,
      NameCriteria.IsDead.accepts dead, LetsPass, Bool.not_true, Bool.and_false, Bool.or_self,
      Bool.false_eq_true]
  | symbolVersion =>
    refine ⟨TextCriteria.IsDead.isPresent dead, ?_⟩
    rw [VariableRule.accepts, VariableRule.acceptsVersion, TextCriteria.IsDead.isPresent dead, LetsPass]
    simp only [TextCriteria.IsDead.permits dead, Bool.not_true, Bool.false_or, Option.any_true]
  | type =>
    refine ⟨TextCriteria.IsDead.isPresent dead, ?_⟩
    rw [VariableRule.accepts, VariableRule.acceptsType, TextCriteria.IsDead.isPresent dead, LetsPass]
    have all : rule.type.permits = fun _ => true := funext (TextCriteria.IsDead.permits dead)
    rw [all, Option.any_true, Bool.not_true, Bool.false_or]
  | soname => exact ⟨dead.1, Bool.eq_false_iff.mp (dead.concerns _), False.elim⟩
  | fileName => exact ⟨dead.1, Bool.eq_false_iff.mp (dead.concerns _), False.elim⟩

/-- With a malformed pattern for the files to keep, a location is accepted if it is known and not in one
of the files that are named. -/
theorem TypeRule.acceptsLocation_iff_of_isMalformed {rule : TypeRule}
    (malformed : rule.keptFilePattern.IsMalformed) (location? : Option SourceLocation) :
    rule.acceptsLocation location? = true ↔ ∃ location, location? = some location ∧
      ∀ file ∈ rule.keptFiles, location.baseName ≠ file ∧ location.file ≠ file := by
  cases location? with
  | none =>
    simp only [acceptsLocation, hasLocationCriteria, malformed.1, Bool.or_true, Bool.not_true,
      Bool.false_eq_true, reduceCtorEq, false_and, exists_false]
  | some location =>
    have undecided : rule.keptFilePattern.matches? location.file = none := by
      rw [Pattern.matches?, malformed.2, Option.map_none]
    simp only [acceptsLocation, undecided, Option.getD_none, Bool.not_false, Bool.true_and,
      Bool.and_eq_true, Bool.not_eq_true', List.contains_eq_mem, decide_eq_false_iff_not,
      Option.some_inj, exists_eq_left']
    constructor
    · rintro ⟨base, whole⟩ file kept
      exact ⟨fun same => base (same ▸ kept), fun same => whole (same ▸ kept)⟩
    · intro other
      exact ⟨fun kept => (other _ kept).1 rfl, fun kept => (other _ kept).2 rfl⟩

/-- A dead criterion of a rule about types is there, and accepts what it lets pass. -/
theorem TypeRule.IsDead.accepts_iff {rule : TypeRule} {criterion : Criterion}
    (dead : rule.IsDead criterion) (binary : Binary) (facts : TypeFacts) :
    rule.has criterion = true ∧
      (rule.accepts binary facts criterion = true ↔ rule.LetsPass facts criterion) := by
  cases criterion with
  | changes | symbolName | symbolVersion | type | parameters | typeKind | reach | insertions
  | enumerators => contradiction
  | name =>
    obtain ⟨patterns, exact_⟩ := dead
    refine ⟨?_, fun _ => trivial, fun _ => ?_⟩
    · rw [TypeRule.has, hasNameCriteria, patterns.1, Bool.or_true]
    · rw [TypeRule.accepts, acceptsName, exact_, if_neg Bool.false_ne_true, patterns.permits]
  | location =>
    have present : rule.hasLocationCriteria = true := by
      rw [hasLocationCriteria, dead.1.1, Bool.or_true]
    exact ⟨present, acceptsLocation_iff_of_isMalformed dead.1 facts.location⟩
  | soname => exact ⟨dead.1, Bool.eq_false_iff.mp (dead.concerns _), False.elim⟩
  | fileName => exact ⟨dead.1, Bool.eq_false_iff.mp (dead.concerns _), False.elim⟩

/-! ## What a rule with a dead criterion suppresses -/

/-- Where one criterion is known to be there and to accept exactly under a condition, all criteria accept
exactly if the condition holds and the others accept. -/
theorem accept_iff_of_criterion {has accepts : Criterion → Bool} {criterion : Criterion}
    {condition : Prop}
    (known : has criterion = true ∧ (accepts criterion = true ↔ condition)) :
    ((∃ other, has other = true) ∧ ∀ other, accepts other = true) ↔
      condition ∧ ∀ other, other ≠ criterion → accepts other = true := by
  constructor
  · rintro ⟨_, all⟩
    exact ⟨known.2.mp (all criterion), fun other _ => all other⟩
  · rintro ⟨passes, others⟩
    refine ⟨⟨criterion, known.1⟩, fun other => ?_⟩
    by_cases same : other = criterion
    · rw [same]
      exact known.2.mpr passes
    · exact others other same

/-- A rule with a dead criterion suppresses what the dead criterion lets pass if every other criterion
accepts it, and nothing else. So malformed patterns suppress nothing where they are about a name of a
function or variable, a symbol or the binary, nor, but for an empty text, where they are about a result;
but they hide changes where they are about a version, the type of a variable, the name of a type or a
location.

Proof: a dead criterion is there, so the rule has one, and each criterion accepts on its own. -/
theorem suppresses_iff_of_isDead (binary : Binary) (change : Changes) (criterion : Criterion) :
    (∀ rule : FunctionRule, rule.IsDead criterion →
      ∀ (facts : FunctionFacts) (checkParameters : Bool),
        rule.suppresses binary facts change checkParameters = true ↔
          rule.LetsPass facts criterion ∧ ∀ other, other ≠ criterion →
            rule.accepts binary facts change checkParameters other = true) ∧
      (∀ rule : VariableRule, rule.IsDead criterion → ∀ facts : VariableFacts,
        rule.suppresses binary facts change = true ↔
          VariableRule.LetsPass facts criterion ∧ ∀ other, other ≠ criterion →
            rule.accepts binary facts change other = true) ∧
      ∀ rule : TypeRule, rule.IsDead criterion → ∀ facts : TypeFacts,
        rule.suppresses binary facts = true ↔
          rule.LetsPass facts criterion ∧ ∀ other, other ≠ criterion →
            rule.accepts binary facts other = true := by
  refine ⟨fun rule dead facts checkParameters => ?_, fun rule dead facts => ?_,
    fun rule dead facts => ?_⟩
  · rw [FunctionRule.suppresses_iff]
    exact accept_iff_of_criterion (dead.accepts_iff binary facts change checkParameters)
  · rw [VariableRule.suppresses_iff]
    exact accept_iff_of_criterion (dead.accepts_iff binary facts change)
  · rw [TypeRule.suppresses_iff]
    exact accept_iff_of_criterion (dead.accepts_iff binary facts)

/-- A pattern with a group that is not closed. -/
def unclosed : Pattern := Pattern.ofText "("

theorem unclosed_isMalformed : unclosed.IsMalformed :=
  ⟨by decide, Option.isNone_iff_eq_none.mp (by decide +kernel)⟩

/-- The rule at a symbol name, which suppresses nothing, and at the type of a variable, which lets any
known type pass. -/
theorem suppresses_iff_of_isDead_unclosed :
    let aboutSymbol : FunctionRule := { symbolName := { patterns := { only := unclosed } } }
    let aboutType : VariableRule := { type := { pattern := unclosed } }
    aboutSymbol.IsDead .symbolName ∧ aboutType.IsDead .type ∧
      aboutSymbol.suppresses {} { linkageName := "reset" } Changes.onlyDeleted true ≠ true ∧
      aboutType.suppresses {} { name := "origin", type := some "int" } Changes.onlySubtype = true := by
  intro aboutSymbol aboutType
  have symbolDead : aboutSymbol.IsDead .symbolName :=
    ⟨⟨by decide, unclosed_isMalformed.2, rfl⟩, rfl⟩
  have typeDead : aboutType.IsDead .type := ⟨unclosed_isMalformed, rfl⟩
  refine ⟨symbolDead, typeDead, fun suppressed => ?_, ?_⟩
  · exact (((suppresses_iff_of_isDead {} Changes.onlyDeleted .symbolName).1 aboutSymbol symbolDead
      { linkageName := "reset" } true).mp suppressed).1
  · refine ((suppresses_iff_of_isDead {} Changes.onlySubtype .type).2.1 aboutType typeDead
      { name := "origin", type := some "int" }).mpr ⟨rfl, fun other _ => ?_⟩
    cases other <;> rfl

/-- Malformed patterns that nevertheless hide a change: about the version of a symbol, of a function and
of a variable, about the type of a variable, about the name of a type, and about the files to keep. -/
theorem malformed_patterns_hide :
    let symbol : Symbol := { name := "reset", kind := .function }
    let place : SourceLocation := { file := "point.c" }
    let ofFunction : FunctionRule := { symbolVersion := { pattern := unclosed } }
    let ofVariable : VariableRule := { symbolVersion := { pattern := unclosed } }
    let ofType : VariableRule := { type := { pattern := unclosed } }
    let byName : TypeRule := { namePatterns := { only := unclosed } }
    let byPlace : TypeRule := { keptFilePattern := unclosed }
    (ofFunction.IsDead .symbolVersion ∧
        ofFunction.suppresses {} { symbol := some symbol } Changes.onlyDeleted true = true) ∧
      (ofVariable.IsDead .symbolVersion ∧
        ofVariable.suppresses {} { symbol := some symbol } Changes.onlyDeleted = true) ∧
      (ofType.IsDead .type ∧
        ofType.suppresses {} { type := some "int" } Changes.onlySubtype = true) ∧
      (byName.IsDead .name ∧ byName.suppresses {} { name := "struct point" } = true) ∧
      byPlace.IsDead .location ∧
        byPlace.suppresses {} { name := "struct point", location := some place } = true := by
  intro symbol place ofFunction ofVariable ofType byName byPlace
  have dead := unclosed_isMalformed
  exact ⟨⟨⟨dead, rfl⟩, rfl⟩, ⟨⟨dead, rfl⟩, rfl⟩, ⟨⟨dead, rfl⟩, rfl⟩, ⟨⟨⟨rfl, dead.2, rfl⟩, rfl⟩, rfl⟩,
    ⟨dead, List.forall_mem_nil _⟩, rfl⟩

end Suppression

end Abiscope
