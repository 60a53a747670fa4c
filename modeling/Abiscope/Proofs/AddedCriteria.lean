import Abiscope.Proofs.RuleCriteria

/-!
# Added criteria

A rule may be given a criterion that it does not have. If it has another one already, it suppresses
afterwards what it suppressed before and what the new criterion accepts: every criterion is one more
condition beside the others, whatever else the rule asks for. So a rule with more criteria never
suppresses more.

A rule without criteria is left out here, since it suppresses nothing and its first criterion is what
makes it apply.
-/

namespace Abiscope.Suppression

/-! ## Taking a criterion from another rule -/

/-- The criteria on the binary, one of them taken from elsewhere. -/
def Header.taking (header other : Header) : Criterion → Header
  | .soname => { header with soname := other.soname }
  | .fileName => { header with fileName := other.fileName }
  | _ => header

/-- A rule about functions with one criterion taken from another rule. Whether other symbols of a
function have to be accepted as well belongs to the criteria on the symbol. -/
def FunctionRule.taking (rule other : FunctionRule) : Criterion → FunctionRule
  | .changes => { rule with changes := other.changes }
  | .name => { rule with name := other.name }
  | .symbolName =>
    { rule with symbolName := other.symbolName, allowsAliases := other.allowsAliases }
  | .symbolVersion => { rule with symbolVersion := other.symbolVersion }
  | .type => { rule with resultType := other.resultType }
  | .parameters => { rule with parameters := other.parameters }
  | criterion => { rule with header := rule.header.taking other.header criterion }

/-- A rule about variables with one criterion taken from another rule. -/
def VariableRule.taking (rule other : VariableRule) : Criterion → VariableRule
  | .changes => { rule with changes := other.changes }
  | .name => { rule with name := other.name }
  | .symbolName => { rule with symbolName := other.symbolName }
  | .symbolVersion => { rule with symbolVersion := other.symbolVersion }
  | .type => { rule with type := other.type }
  | criterion => { rule with header := rule.header.taking other.header criterion }

/-- A rule about types with one criterion taken from another rule. -/
def TypeRule.taking (rule other : TypeRule) : Criterion → TypeRule
  | .name => { rule with name := other.name, namePatterns := other.namePatterns }
  | .typeKind => { rule with kind := other.kind }
  | .reach => { rule with reach := other.reach }
  | .location =>
    { rule with keptFiles := other.keptFiles, keptFilePattern := other.keptFilePattern }
  | .insertions => { rule with insertions := other.insertions }
  | .enumerators => { rule with enumerators := other.enumerators }
  | criterion => { rule with header := rule.header.taking other.header criterion }

/-! ## The criteria that stay -/

/-- A rule about functions keeps the criteria that it does not take. -/
theorem FunctionRule.taking_of_ne (rule source : FunctionRule) (binary : Binary)
    (facts : FunctionFacts) (change : Changes) (checkParameters : Bool) {criterion other : Criterion}
    (differs : other ≠ criterion) :
    (rule.taking source criterion).has other = rule.has other ∧
      (rule.taking source criterion).accepts binary facts change checkParameters other =
        rule.accepts binary facts change checkParameters other := by
  cases criterion <;> cases other <;> first | exact ⟨rfl, rfl⟩ | contradiction

/-- A rule about variables keeps the criteria that it does not take. -/
theorem VariableRule.taking_of_ne (rule source : VariableRule) (binary : Binary)
    (facts : VariableFacts) (change : Changes) {criterion other : Criterion}
    (differs : other ≠ criterion) :
    (rule.taking source criterion).has other = rule.has other ∧
      (rule.taking source criterion).accepts binary facts change other =
        rule.accepts binary facts change other := by
  cases criterion <;> cases other <;> first | exact ⟨rfl, rfl⟩ | contradiction

/-- A rule about types keeps the criteria that it does not take. -/
theorem TypeRule.taking_of_ne (rule source : TypeRule) (binary : Binary) (facts : TypeFacts)
    {criterion other : Criterion} (differs : other ≠ criterion) :
    (rule.taking source criterion).has other = rule.has other ∧
      (rule.taking source criterion).accepts binary facts other =
        rule.accepts binary facts other := by
  cases criterion <;> cases other <;> first | exact ⟨rfl, rfl⟩ | contradiction

/-! ## The criterion that is missing -/

/-- All kinds of change have one in common with whatever some kinds have one in common with. -/
theorem Changes.meets_of_meets {changes change : Changes} (common : changes.meets change = true) :
    ({} : Changes).meets change = true := by
  simp only [meets, Bool.or_eq_true, Bool.and_eq_true, true_and] at common ⊢
  rcases common with (subtype | added) | deleted
  · exact .inl (.inl subtype.2)
  · exact .inl (.inr added.2)
  · exact .inr deleted.2

/-- A pair that is not set objects to nothing. -/
theorem PatternPair.permits_of_not_isSet {pair : PatternPair} (missing : pair.isSet = false)
    (text : String) : pair.permits text = true := by
  obtain ⟨only, except⟩ := Bool.or_eq_false_iff.mp missing
  rw [permits, Pattern.matches?_of_not_isSet only, Pattern.matches?_of_not_isSet except]
  rfl

/-- A criterion that a rule about functions does not have accepts what any criterion in its place does.
-/
theorem FunctionRule.accepts_of_taking {rule source : FunctionRule} {binary : Binary}
    {facts : FunctionFacts} {change : Changes} {checkParameters : Bool} {criterion : Criterion}
    (missing : rule.has criterion = false)
    (accepted : (rule.taking source criterion).accepts binary facts change checkParameters criterion =
      true) :
    rule.accepts binary facts change checkParameters criterion = true := by
  cases criterion with
  | changes =>
    have all : rule.changes = {} := bne_eq_false_iff_eq.mp missing
    rw [accepts, all]
    exact Changes.meets_of_meets accepted
  | name => rw [accepts, acceptsName, show rule.name.isPresent = false from missing]; rfl
  | symbolName =>
    rw [accepts, acceptsSymbol, show rule.symbolName.isPresent = false from missing]
    rfl
  | symbolVersion =>
    rw [accepts, acceptsVersion, show rule.symbolVersion.isPresent = false from missing]
    rfl
  | type => rw [accepts, acceptsResult, show rule.resultType.isPresent = false from missing]; rfl
  | parameters =>
    have isEmpty : rule.parameters.isEmpty = true := Bool.not_inj missing
    rw [accepts, acceptsParameters, List.isEmpty_iff.mp isEmpty, List.all_nil, Bool.or_true]
  | soname => rw [accepts, show rule.header.soname.isSet = false from missing]; rfl
  | fileName => rw [accepts, show rule.header.fileName.isSet = false from missing]; rfl
  | typeKind | reach | location | insertions | enumerators => rfl

/-- A criterion that a rule about variables does not have accepts what any criterion in its place does.
-/
theorem VariableRule.accepts_of_taking {rule source : VariableRule} {binary : Binary}
    {facts : VariableFacts} {change : Changes} {criterion : Criterion}
    (missing : rule.has criterion = false)
    (accepted : (rule.taking source criterion).accepts binary facts change criterion = true) :
    rule.accepts binary facts change criterion = true := by
  cases criterion with
  | changes =>
    have all : rule.changes = {} := bne_eq_false_iff_eq.mp missing
    rw [accepts, all]
    exact Changes.meets_of_meets accepted
  | name => rw [accepts, acceptsName, show rule.name.isPresent = false from missing]; rfl
  | symbolName =>
    rw [accepts, acceptsSymbol, show rule.symbolName.isPresent = false from missing]
    rfl
  | symbolVersion =>
    rw [accepts, acceptsVersion, show rule.symbolVersion.isPresent = false from missing]
    rfl
  | type => rw [accepts, acceptsType, show rule.type.isPresent = false from missing]; rfl
  | soname => rw [accepts, show rule.header.soname.isSet = false from missing]; rfl
  | fileName => rw [accepts, show rule.header.fileName.isSet = false from missing]; rfl
  | parameters | typeKind | reach | location | insertions | enumerators => rfl

/-- A rule without files to keep accepts every location. -/
theorem TypeRule.acceptsLocation_of_missing {rule : TypeRule}
    (missing : rule.hasLocationCriteria = false) (location? : Option SourceLocation) :
    rule.acceptsLocation location? = true := by
  obtain ⟨noFiles, notSet⟩ := Bool.or_eq_false_iff.mp missing
  have isEmpty : rule.keptFiles.isEmpty = true := Bool.not_inj noFiles
  cases location? with
  | none => rw [acceptsLocation, missing]; rfl
  | some location =>
    rw [acceptsLocation, Pattern.matches?_of_not_isSet notSet, List.isEmpty_iff.mp isEmpty]
    rfl

/-- A criterion that a rule about types does not have accepts everything. -/
theorem TypeRule.accepts_of_missing {rule : TypeRule} {criterion : Criterion}
    (missing : rule.has criterion = false) (binary : Binary) (facts : TypeFacts) :
    rule.accepts binary facts criterion = true := by
  cases criterion with
  | name =>
    obtain ⟨notGiven, notSet⟩ := Bool.or_eq_false_iff.mp missing
    rw [accepts, acceptsName, notGiven, if_neg Bool.false_ne_true,
      PatternPair.permits_of_not_isSet notSet]
  | typeKind =>
    have none : rule.kind = none := Option.not_isSome_iff_eq_none.mp (Bool.eq_false_iff.mp missing)
    rw [accepts, none, Option.all_none]
  | reach =>
    have none : rule.reach = none := Option.not_isSome_iff_eq_none.mp (Bool.eq_false_iff.mp missing)
    rw [accepts, none, Option.all_none]
  | location => exact TypeRule.acceptsLocation_of_missing missing facts.location
  | insertions =>
    have isEmpty : rule.insertions.isEmpty = true := Bool.not_inj missing
    rw [accepts, acceptsInsertions, isEmpty, Bool.true_or]
  | enumerators =>
    have isEmpty : rule.enumerators.isEmpty = true := Bool.not_inj missing
    rw [accepts, acceptsEnumerators, isEmpty, Bool.true_or]
  | soname => rw [accepts, show rule.header.soname.isSet = false from missing]; rfl
  | fileName => rw [accepts, show rule.header.fileName.isSet = false from missing]; rfl
  | changes | symbolName | symbolVersion | type | parameters => rfl

/-! ## What a rule with an added criterion suppresses -/

/-- Where one criterion is missing and another is put in its place while the rest stay, all criteria
accept exactly if they did before and the one that was put there accepts. -/
theorem accept_iff_of_added {has accepts hasNow acceptsNow : Criterion → Bool}
    {criterion : Criterion} (present : ∃ other, has other = true) (missing : has criterion = false)
    (stays : ∀ other, other ≠ criterion →
      hasNow other = has other ∧ acceptsNow other = accepts other)
    (idle : acceptsNow criterion = true → accepts criterion = true) :
    ((∃ other, hasNow other = true) ∧ ∀ other, acceptsNow other = true) ↔
      ((∃ other, has other = true) ∧ ∀ other, accepts other = true) ∧
        acceptsNow criterion = true := by
  constructor
  · rintro ⟨_, all⟩
    refine ⟨⟨present, fun other => ?_⟩, all criterion⟩
    by_cases same : other = criterion
    · exact same ▸ idle (all criterion)
    · exact (stays other same).2 ▸ all other
  · rintro ⟨⟨⟨other, found⟩, all⟩, accepted⟩
    have differs : other ≠ criterion := by
      rintro rfl
      exact Bool.false_ne_true (missing.symm.trans found)
    refine ⟨⟨other, (stays other differs).1.trans found⟩, fun another => ?_⟩
    by_cases same : another = criterion
    · exact same ▸ accepted
    · exact (stays another same).2.trans (all another)

/-- A rule that has criteria, and takes one that it does not have from another rule, suppresses
afterwards what it suppressed before and the added criterion accepts. So it never suppresses more,
whatever the criterion asks for, and whatever is known about the change and the binary. -/
theorem suppresses_taking_iff (binary : Binary) (change : Changes) (criterion : Criterion) :
    (∀ rule source : FunctionRule, rule.hasCriteria = true → rule.has criterion = false →
      ∀ (facts : FunctionFacts) (checkParameters : Bool),
        (rule.taking source criterion).suppresses binary facts change checkParameters = true ↔
          rule.suppresses binary facts change checkParameters = true ∧
            (rule.taking source criterion).accepts binary facts change checkParameters criterion =
              true) ∧
      (∀ rule source : VariableRule, rule.hasCriteria = true → rule.has criterion = false →
        ∀ facts : VariableFacts,
          (rule.taking source criterion).suppresses binary facts change = true ↔
            rule.suppresses binary facts change = true ∧
              (rule.taking source criterion).accepts binary facts change criterion = true) ∧
      ∀ rule source : TypeRule, rule.hasCriteria = true → rule.has criterion = false →
        ∀ facts : TypeFacts,
          (rule.taking source criterion).suppresses binary facts = true ↔
            rule.suppresses binary facts = true ∧
              (rule.taking source criterion).accepts binary facts criterion = true := by
  refine ⟨fun rule source present missing facts checkParameters => ?_,
    fun rule source present missing facts => ?_, fun rule source present missing facts => ?_⟩
  · rw [FunctionRule.suppresses_iff, FunctionRule.suppresses_iff]
    exact accept_iff_of_added (rule.hasCriteria_iff.mp present) missing
      (fun _ => rule.taking_of_ne source binary facts change checkParameters)
      (FunctionRule.accepts_of_taking missing)
  · rw [VariableRule.suppresses_iff, VariableRule.suppresses_iff]
    exact accept_iff_of_added (rule.hasCriteria_iff.mp present) missing
      (fun _ => rule.taking_of_ne source binary facts change)
      (VariableRule.accepts_of_taking missing)
  · rw [TypeRule.suppresses_iff, TypeRule.suppresses_iff]
    exact accept_iff_of_added (rule.hasCriteria_iff.mp present) missing
      (fun _ => rule.taking_of_ne source binary facts)
      (fun _ => TypeRule.accepts_of_missing missing binary facts)

/-- A rule about functions that takes a version, one about variables that takes a type, and one about
types that takes a way of being reached. The first still suppresses a change, the others give one up. -/
theorem suppresses_taking_iff_reset :
    let byName : FunctionRule := { name := { exact := some "reset" } }
    let byVersion : FunctionRule := { symbolVersion := { exact := some "LIB_2" } }
    let symbol : Symbol := { name := "reset", kind := .function, version := { name := "LIB_2" } }
    let reset : FunctionFacts := { name := "reset", symbol := some symbol }
    let ofOrigin : VariableRule := { symbolName := { exact := some "origin" } }
    let ofInt : VariableRule := { type := { exact := some "int" } }
    let origin : VariableFacts := { linkageName := "origin", type := some "long" }
    let ofStructs : TypeRule := { kind := some .structType }
    let behindPointers : TypeRule := { reach := some .pointer }
    let point : TypeFacts := { name := "struct point", kind := some .structType }
    (byName.hasCriteria = true ∧ byName.has .symbolVersion = false ∧
        (byName.taking byVersion .symbolVersion).suppresses {} reset Changes.onlyDeleted true =
          true) ∧
      (ofOrigin.hasCriteria = true ∧ ofOrigin.has .type = false ∧
        (ofOrigin.taking ofInt .type).suppresses {} origin Changes.onlyDeleted ≠ true) ∧
      ofStructs.hasCriteria = true ∧ ofStructs.has .reach = false ∧
        (ofStructs.taking behindPointers .reach).suppresses {} point ≠ true := by
  intro byName byVersion symbol reset ofOrigin ofInt origin ofStructs behindPointers point
  refine ⟨⟨by decide, by decide, ?_⟩, ⟨by decide, by decide, fun suppressed => ?_⟩, by decide,
    by decide, fun suppressed => ?_⟩
  · exact ((suppresses_taking_iff {} Changes.onlyDeleted .symbolVersion).1 byName byVersion (by decide)
      (by decide) reset true).mpr ⟨by decide, by decide⟩
  · have ofType := (((suppresses_taking_iff {} Changes.onlyDeleted .type).2.1 ofOrigin ofInt (by decide)
      (by decide) origin).mp suppressed).2
    revert ofType
    decide
  · have ofReach := (((suppresses_taking_iff {} {} .reach).2.2 ofStructs behindPointers (by decide)
      (by decide) point).mp suppressed).2
    revert ofReach
    decide

end Abiscope.Suppression
