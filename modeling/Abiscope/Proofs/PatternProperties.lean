import Abiscope.Proofs.FileTables
import Mathlib.Tactic.Tauto

/-!
# Pattern properties

A pattern is written under a property of a table and found under the same property of its rule. The check
of a rule goes through a list of its patterns; the list leaves none out, and holds no other ones. So a
rule passes the check exactly if under every property the pattern that was written, if any, is empty or
well-formed.
-/

namespace Abiscope.Suppression

/-- The properties that hold a pattern: on the binary, on what a rule is about, and on the type of a
parameter, by the position of its entry. No kind of rule has all of them. -/
inductive PatternProperty where
  | fileName
  | fileNameNot
  | soname
  | sonameNot
  | name
  | nameNot
  | symbolName
  | symbolNameNot
  | symbolVersion
  | type
  | keptFiles
  | parameter (position : Nat)
deriving DecidableEq, Repr

/-- What holds of every property, one by one. -/
theorem PatternProperty.forall_iff {holds : PatternProperty → Prop} :
    (∀ property, holds property) ↔
      (holds fileName ∧ holds fileNameNot ∧ holds soname ∧ holds sonameNot) ∧
      (holds name ∧ holds nameNot ∧ holds type ∧ holds symbolName ∧ holds symbolNameNot ∧
        holds symbolVersion ∧ holds keptFiles) ∧
      ∀ position, holds (parameter position) := by
  constructor
  · exact fun all => ⟨⟨all _, all _, all _, all _⟩,
      ⟨all _, all _, all _, all _, all _, all _, all _⟩, fun _ => all _⟩
  · rintro ⟨⟨_, _, _, _⟩, ⟨_, _, _, _, _, _, _⟩, parameters⟩ property
    cases property with
    | parameter position => exact parameters position
    | _ => assumption

/-! ## What is written in tables -/

/-- What is written under a property that every table has. -/
def HeaderTable.patternText? (table : HeaderTable) : PatternProperty → Option String
  | .fileName => table.fileNamePattern
  | .fileNameNot => table.fileNameNotPattern
  | .soname => table.sonamePattern
  | .sonameNot => table.sonameNotPattern
  | _ => none

/-- What is written under a pattern property of a table about functions. -/
def FunctionTable.patternText? (table : FunctionTable) : PatternProperty → Option String
  | .name => table.namePattern
  | .nameNot => table.nameNotPattern
  | .symbolName => table.symbolNamePattern
  | .symbolNameNot => table.symbolNameNotPattern
  | .symbolVersion => table.symbolVersionPattern
  | .type => table.returnTypePattern
  | .parameter position => table.parameters[position]?.bind ParameterTable.typeNamePattern
  | property => table.header.patternText? property

/-- What is written under a pattern property of a table about variables. -/
def VariableTable.patternText? (table : VariableTable) : PatternProperty → Option String
  | .name => table.namePattern
  | .nameNot => table.nameNotPattern
  | .symbolName => table.symbolNamePattern
  | .symbolNameNot => table.symbolNameNotPattern
  | .symbolVersion => table.symbolVersionPattern
  | .type => table.typeNamePattern
  | property => table.header.patternText? property

/-- What is written under a pattern property of a table about types. -/
def TypeTable.patternText? (table : TypeTable) : PatternProperty → Option String
  | .name => table.namePattern
  | .nameNot => table.nameNotPattern
  | .keptFiles => table.locationNotPattern
  | property => table.header.patternText? property

/-- What is written under a pattern property of a table. -/
def Table.patternText? : Table → PatternProperty → Option String
  | aboutFunction table => table.patternText?
  | aboutVariable table => table.patternText?
  | aboutType table => table.patternText?

/-! ## What is found in rules -/

/-- The pattern of a property that every rule has. -/
def Header.patternAt (header : Header) : PatternProperty → Pattern
  | .fileName => header.fileName.only
  | .fileNameNot => header.fileName.except
  | .soname => header.soname.only
  | .sonameNot => header.soname.except
  | _ => Pattern.absent

/-- The pattern of a property of a rule about functions. -/
def FunctionRule.patternAt (rule : FunctionRule) : PatternProperty → Pattern
  | .name => rule.name.patterns.only
  | .nameNot => rule.name.patterns.except
  | .symbolName => rule.symbolName.patterns.only
  | .symbolNameNot => rule.symbolName.patterns.except
  | .symbolVersion => rule.symbolVersion.pattern
  | .type => rule.resultType.pattern
  | .parameter position =>
    (rule.parameters[position]?.map fun spec => spec.type.pattern).getD Pattern.absent
  | property => rule.header.patternAt property

/-- The pattern of a property of a rule about variables. -/
def VariableRule.patternAt (rule : VariableRule) : PatternProperty → Pattern
  | .name => rule.name.patterns.only
  | .nameNot => rule.name.patterns.except
  | .symbolName => rule.symbolName.patterns.only
  | .symbolNameNot => rule.symbolName.patterns.except
  | .symbolVersion => rule.symbolVersion.pattern
  | .type => rule.type.pattern
  | property => rule.header.patternAt property

/-- The pattern of a property of a rule about types. -/
def TypeRule.patternAt (rule : TypeRule) : PatternProperty → Pattern
  | .name => rule.namePatterns.only
  | .nameNot => rule.namePatterns.except
  | .keptFiles => rule.keptFilePattern
  | property => rule.header.patternAt property

/-- The pattern of a property of a rule. A property that the rule does not have holds no pattern. -/
def patternAt : Suppression → PatternProperty → Pattern
  | aboutFunction rule => rule.patternAt
  | aboutVariable rule => rule.patternAt
  | aboutType rule => rule.patternAt

/-! ## From tables to rules -/

/-- The criterion of a parameter entry has the pattern of the entry. -/
theorem pattern_toSpec {label : String} {entry : ParameterTable} {spec : ParameterSpec}
    (made : entry.toSpec label = .ok spec) : spec.type.pattern = patternOf entry.typeNamePattern := by
  rw [ParameterTable.toSpec] at made
  cases pattern : entry.typeNamePattern with
  | some source =>
    rw [pattern] at made
    cases made
    rfl
  | none =>
    rw [pattern] at made
    cases name : entry.typeName with
    | some type =>
      rw [name] at made
      cases made
      rfl
    | none =>
      rw [name] at made
      contradiction

/-- The rule of a table about functions has the patterns of the table. -/
theorem FunctionTable.patternAt_toRule {table : FunctionTable} {rule : FunctionRule}
    (made : table.toRule = .ok rule) (property : PatternProperty) :
    rule.patternAt property = patternOf (table.patternText? property) := by
  obtain ⟨changes, ofKeyword, made⟩ := bind_eq_ok.mp made
  obtain ⟨specs, ofEntries, made⟩ := bind_eq_ok.mp made
  cases made
  cases property with
  | parameter position =>
    have same : table.parameters.map (fun entry => patternOf entry.typeNamePattern) =
        specs.map fun spec => spec.type.pattern := by
      rw [← List.forall₂_eq_eq_eq, List.forall₂_map_left_iff, List.forall₂_map_right_iff]
      exact (mapM_eq_ok_iff.mp ofEntries).imp fun _ _ made => (pattern_toSpec made).symm
    rw [FunctionRule.patternAt, patternText?, ← List.getElem?_map, ← same, List.getElem?_map]
    cases table.parameters[position]? <;> rfl
  | _ => rfl

/-- The rule of a table about variables has the patterns of the table. -/
theorem VariableTable.patternAt_toRule {table : VariableTable} {rule : VariableRule}
    (made : table.toRule = .ok rule) (property : PatternProperty) :
    rule.patternAt property = patternOf (table.patternText? property) := by
  obtain ⟨changes, ofKeyword, made⟩ := bind_eq_ok.mp made
  cases made
  cases property <;> rfl

/-- The rule of a table about types has the patterns of the table. -/
theorem TypeTable.patternAt_toRule {table : TypeTable} {rule : TypeRule}
    (made : table.toRule = .ok rule) (property : PatternProperty) :
    rule.patternAt property = patternOf (table.patternText? property) := by
  obtain ⟨kind, ofKind, made⟩ := bind_eq_ok.mp made
  obtain ⟨reach, ofReach, made⟩ := bind_eq_ok.mp made
  obtain ⟨at_, ofAt, made⟩ := bind_eq_ok.mp made
  obtain ⟨between, ofBetween, made⟩ := bind_eq_ok.mp made
  cases made
  cases property <;> rfl

/-- The rule of a table has the patterns of the table. -/
theorem Table.patternAt_toRule {table : Table} {rule : Suppression}
    (made : table.toRule = .ok rule) (property : PatternProperty) :
    rule.patternAt property = patternOf (table.patternText? property) := by
  cases table with
  | aboutFunction table =>
    obtain ⟨inner, ofTable, rfl⟩ := map_eq_ok.mp made
    exact FunctionTable.patternAt_toRule ofTable property
  | aboutVariable table =>
    obtain ⟨inner, ofTable, rfl⟩ := map_eq_ok.mp made
    exact VariableTable.patternAt_toRule ofTable property
  | aboutType table =>
    obtain ⟨inner, ofTable, rfl⟩ := map_eq_ok.mp made
    exact TypeTable.patternAt_toRule ofTable property

/-! ## The check of patterns -/

/-- What holds of the patterns for parameters holds of the pattern of each criterion on a parameter. -/
theorem FunctionRule.forall_parameter_iff {holds : Pattern → Prop} (absent : holds Pattern.absent)
    (rule : FunctionRule) :
    (∀ position, holds (rule.patternAt (.parameter position))) ↔
      ∀ spec ∈ rule.parameters, holds spec.type.pattern := by
  constructor
  · intro all spec member
    obtain ⟨position, found⟩ := List.mem_iff_getElem?.mp member
    have held := all position
    rw [patternAt, found] at held
    exact held
  · intro each position
    rw [patternAt]
    cases found : rule.parameters[position]? with
    | none => exact absent
    | some spec => exact each spec (List.mem_of_getElem? found)

/-- The list of patterns to check leaves none out and holds no others: what holds of the absent pattern
holds of all patterns on the list exactly if it holds of the pattern of every property. -/
theorem forall_mem_patterns_iff (holds : Pattern → Prop) (absent : holds Pattern.absent)
    (rule : Suppression) :
    (∀ entry ∈ rule.patterns, holds entry.2) ↔ ∀ property, holds (rule.patternAt property) := by
  rw [PatternProperty.forall_iff]
  cases rule with
  | aboutFunction rule =>
    simp only [Suppression.patterns, FunctionRule.patterns, Header.patterns, patternAt,
      rule.forall_parameter_iff absent, List.cons_append, List.nil_append, List.forall_mem_cons,
      List.forall_mem_map]
    simp only [FunctionRule.patternAt, Header.patternAt, absent]
    tauto
  | aboutVariable rule =>
    simp only [Suppression.patterns, VariableRule.patterns, Header.patterns, patternAt,
      List.cons_append, List.nil_append, List.forall_mem_cons]
    simp only [VariableRule.patternAt, Header.patternAt, absent]
    tauto
  | aboutType rule =>
    simp only [Suppression.patterns, TypeRule.patterns, Header.patterns, patternAt,
      List.cons_append, List.nil_append, List.forall_mem_cons]
    simp only [TypeRule.patternAt, Header.patternAt, absent]
    tauto

/-- A rule passes the check exactly if the pattern of every property is well-formed. -/
theorem checkPatterns_eq_ok_iff (rule : Suppression) :
    checkPatterns rule = .ok () ↔ ∀ property, (rule.patternAt property).isWellFormed = true := by
  rw [← forall_mem_patterns_iff (fun pattern => pattern.isWellFormed = true) rfl, checkPatterns]
  cases found : rule.patterns.find? fun entry => !entry.2.isWellFormed with
  | none =>
    rw [List.find?_eq_none] at found
    exact ⟨fun _ entry member => Bool.not_not_eq.mp (found entry member), fun _ => rfl⟩
  | some entry =>
    have malformed : entry.2.isWellFormed = false := by simpa using List.find?_some found
    constructor
    · exact fun impossible => by contradiction
    · intro all
      have wellFormed := all entry (List.mem_of_find?_eq_some found)
      rw [malformed] at wellFormed
      contradiction

/-- A pattern is well-formed exactly if it is usable whenever it is set. -/
theorem isWellFormed_iff (pattern : Pattern) :
    pattern.isWellFormed = true ↔ (pattern.isSet = true → pattern.usable.isSome = true) := by
  rw [Pattern.isWellFormed, Bool.or_eq_true, Bool.not_eq_true', ← Bool.not_eq_true, ← imp_iff_not_or]

/-- What is written under a pattern property makes a well-formed pattern exactly if it compiles unless it
is empty. -/
theorem isWellFormed_patternOf_iff (text? : Option String) :
    (patternOf text?).isWellFormed = true ↔
      ∀ source, text? = some source → source ≠ "" → (Pattern.compile? source).isSome = true := by
  rw [isWellFormed_iff]
  cases text? with
  | none => exact ⟨fun _ _ impossible => by contradiction, fun _ impossible => by contradiction⟩
  | some text =>
    simp only [Option.some_inj, forall_eq', patternOf, Option.getD_some, Pattern.ofText,
      Pattern.isSet, Pattern.usable?, bne_iff_ne, beq_iff_eq]
    refine imp_congr_right fun given => ?_
    rw [if_neg given]

end Abiscope.Suppression
