import Abiscope.Proofs.LeftOutProperties

/-!
# Empty patterns

An empty pattern is no pattern, so a file should say the same without it. For most properties it does: the
rules are the very same. The entries about parameters are different. An entry that has a type name beside
an empty pattern accepts no type, and without the pattern it accepts the type of that name. So leaving out
the pattern keeps what is suppressed only where the type name is empty as well, or where the other entries
make the difference disappear.
-/

namespace Abiscope.Suppression

/-! ## Rules that suppress alike -/

/-- Two rules about functions suppress the same changes of functions and of their parameters. -/
structure FunctionRule.Alike (rule other : FunctionRule) : Prop where
  functions : ∀ binary facts change checkParameters,
    other.suppresses binary facts change checkParameters =
      rule.suppresses binary facts change checkParameters
  parameters : ∀ index type, other.suppressesParameter index type = rule.suppressesParameter index type

/-- Two rules of one kind suppress the same changes. -/
def AlikeInChanges : Suppression → Suppression → Prop
  | aboutFunction rule, aboutFunction other => rule.Alike other
  | aboutVariable rule, aboutVariable other =>
    ∀ binary facts change, other.suppresses binary facts change = rule.suppresses binary facts change
  | aboutType rule, aboutType other =>
    ∀ binary facts, other.suppresses binary facts = rule.suppresses binary facts
  | _, _ => False

/-- Two rules suppress the same changes, and the same functions, variables and types by their names and
places alone, in any binary. -/
structure Alike (rule other : Suppression) : Prop where
  changes : rule.AlikeInChanges other
  functionNames : ∀ binary, (Context.mk [other] binary).suppressesFunction =
    (Context.mk [rule] binary).suppressesFunction
  variableNames : ∀ binary, (Context.mk [other] binary).suppressesVariable =
    (Context.mk [rule] binary).suppressesVariable
  typeNames : ∀ binary, (Context.mk [other] binary).suppressesType? =
    (Context.mk [rule] binary).suppressesType?

/-- A rule suppresses what it suppresses. -/
theorem Alike.refl (rule : Suppression) : rule.Alike rule where
  changes := by
    cases rule with
    | aboutFunction rule => exact ⟨fun _ _ _ _ => rfl, fun _ _ => rfl⟩
    | aboutVariable rule => exact fun _ _ _ => rfl
    | aboutType rule => exact fun _ _ => rfl
  functionNames _ := rfl
  variableNames _ := rfl
  typeNames _ := rfl

/-! ## A criterion in the place of another one -/

/-- A criterion on a type that is not set accepts nothing. -/
theorem TextCriteria.demands_silent (type : String) :
    TextCriteria.demands ⟨none, Pattern.ofText ""⟩ type = false := rfl

/-- A criterion on a type by its name accepts the type of that name, unless the name is empty. -/
theorem TextCriteria.demands_named (name type : String) :
    TextCriteria.demands ⟨some name, Pattern.absent⟩ type = (name != "" && name == type) := rfl

namespace FunctionRule

variable {rule : FunctionRule} {position : Nat}

/-- A rule suppresses the changes of a parameter that the criterion at a position or one of the others
accepts. -/
theorem suppressesParameter_withCriterion (inside : position < rule.parameters.length)
    (spec : ParameterSpec) (index : Nat) (type : String) :
    (rule.withCriterion position spec).suppressesParameter index type =
      ((rule.parameters.eraseIdx position).any (fun other =>
        other.index == index && other.type.demands type) ||
        (spec.index == index && spec.type.demands type)) := by
  rw [suppressesParameter, withCriterion, List.set_eq_take_append_cons_drop, if_pos inside,
    List.eraseIdx_eq_take_drop_succ, List.any_append, List.any_cons, List.any_append]
  ac_rfl

/-- What a rule suppresses without regard to parameters does not depend on the criteria on parameters. -/
theorem suppresses_withCriterion (rule : FunctionRule) (position : Nat) (spec : ParameterSpec)
    (binary : Binary) (facts : FunctionFacts) (change : Changes) :
    (rule.withCriterion position spec).suppresses binary facts change false =
      rule.suppresses binary facts change false := by
  have asMany : (rule.parameters.set position spec).isEmpty = rule.parameters.isEmpty := by
    cases rule.parameters <;> cases position <;> rfl
  have present : (rule.withCriterion position spec).hasCriteria = rule.hasCriteria := by
    simp only [hasCriteria, withCriterion, asMany]
  rw [suppresses, suppresses, present]
  rfl

/-- A rule with a criterion on a parameter that accepts no type suppresses no function where parameters
are asked for. -/
theorem suppresses_of_silent {spec : ParameterSpec} (found : rule.parameters[position]? = some spec)
    (silent : ∀ type, spec.type.demands type = false) (binary : Binary) (facts : FunctionFacts)
    (change : Changes) : rule.suppresses binary facts change true = false := by
  have refused : rule.acceptsParameters facts = false := by
    rw [acceptsParameters, List.all_eq_false]
    refine ⟨spec, List.mem_of_getElem? found, ?_⟩
    cases facts.parameterTypes[spec.index]? <;> simp [silent]
  rw [suppresses, refused, Bool.not_true, Bool.or_self, Bool.and_false]

/-- A criterion on a parameter by a type name makes no difference to a rule. Its name is empty, or another
criterion on the same parameter accepts the type of that name and the criteria on parameters exclude each
other. -/
def IsIdleAt (rule : FunctionRule) (position : Nat) : Prop :=
  ∀ spec name, rule.parameters[position]? = some spec → spec.type.exact = some name → name ≠ "" →
    (∃ other ∈ rule.parameters.eraseIdx position,
      other.index = spec.index ∧ other.type.demands name = true) ∧
    ∀ binary facts change, rule.suppresses binary facts change true = false

/-- A criterion by a type name in the place of one that is not set makes a rule suppress other changes,
unless the criterion is idle. -/
theorem alike_withCriterion_iff {index : Nat} {name : String}
    (found : rule.parameters[position]? = some ⟨index, ⟨none, Pattern.ofText ""⟩⟩) :
    rule.Alike (rule.withCriterion position ⟨index, ⟨some name, Pattern.absent⟩⟩) ↔
      (rule.withCriterion position ⟨index, ⟨some name, Pattern.absent⟩⟩).IsIdleAt position := by
  obtain ⟨inside, atPosition⟩ := List.getElem?_eq_some_iff.mp found
  have silent := suppresses_of_silent found TextCriteria.demands_silent
  -- The criterion that is not set accepts nothing, so the rule suppresses by the other ones alone.
  have before (asked : Nat) (type : String) : rule.suppressesParameter asked type =
      (rule.parameters.eraseIdx position).any fun other =>
        other.index == asked && other.type.demands type := by
    have same : rule.withCriterion position ⟨index, ⟨none, Pattern.ofText ""⟩⟩ = rule := by
      rw [withCriterion, ← atPosition, List.set_getElem_self]
    have split := suppressesParameter_withCriterion inside ⟨index, ⟨none, Pattern.ofText ""⟩⟩ asked type
    rwa [same, TextCriteria.demands_silent, Bool.and_false, Bool.or_false] at split
  have named : (rule.withCriterion position ⟨index, ⟨some name, Pattern.absent⟩⟩).parameters[position]? =
      some ⟨index, ⟨some name, Pattern.absent⟩⟩ := List.getElem?_set_self inside
  constructor
  · intro alike spec given atPlace exact_ notEmpty
    rw [named] at atPlace
    cases atPlace
    cases exact_
    refine ⟨?_, fun binary facts change => (alike.functions ..).trans (silent ..)⟩
    have covered := alike.parameters index name
    rw [suppressesParameter_withCriterion inside, before, TextCriteria.demands_named, beq_self_eq_true,
      beq_self_eq_true, bne_iff_ne.mpr notEmpty, Bool.and_true, Bool.and_true, Bool.or_true] at covered
    obtain ⟨other, member, accepted⟩ := List.any_eq_true.mp covered.symm
    rw [Bool.and_eq_true, beq_iff_eq] at accepted
    exact ⟨other, by rwa [withCriterion, List.eraseIdx_set_eq], accepted⟩
  · intro idle
    refine ⟨fun binary facts change checkParameters => ?_, fun asked type => ?_⟩
    · cases checkParameters with
      | false => exact rule.suppresses_withCriterion position _ binary facts change
      | true =>
        rw [silent]
        by_cases empty : name = ""
        · refine suppresses_of_silent named (fun type => ?_) binary facts change
          rw [TextCriteria.demands_named, empty, bne_self_eq_false, Bool.false_and]
        · exact (idle _ _ named rfl empty).2 binary facts change
    · rw [suppressesParameter_withCriterion inside, before, TextCriteria.demands_named,
        Bool.eq_iff_iff, Bool.or_eq_true, or_iff_left_iff_imp]
      simp only [Bool.and_eq_true, beq_iff_eq, bne_iff_ne, List.any_eq_true]
      rintro ⟨rfl, notEmpty, rfl⟩
      obtain ⟨⟨other, member, accepted⟩, _⟩ := idle _ _ named rfl notEmpty
      rw [withCriterion, List.eraseIdx_set_eq] at member
      exact ⟨other, member, accepted⟩

end FunctionRule

/-! ## Tables and files without an empty pattern -/

/-- A criterion that a table about functions takes from the type name of a parameter entry is idle. -/
def Table.SparesTypeName (table : Table) (property : PatternProperty) : Prop :=
  ∀ position rule, property = .parameter position → table.toRule = .ok (.aboutFunction rule) →
    rule.IsIdleAt position

/-- Without the empty pattern of a parameter entry a table about functions has a rule with the criterion by
the type name of the entry, which suppresses alike exactly if this criterion is idle. -/
theorem FunctionTable.alike_without_iff {table : FunctionTable} {rule other : FunctionRule}
    {position : Nat} (made : table.toRule = .ok rule)
    (empty : table.patternText? (.parameter position) = some "")
    (remade : (table.without (.parameter position)).toRule = .ok other) :
    (∃ spec, other = rule.withCriterion position spec) ∧
      (rule.Alike other ↔ other.IsIdleAt position) := by
  obtain ⟨entry, found, silent, named⟩ := FunctionTable.toRule_without_parameter made empty
  have member : entry.withoutPattern ∈ (table.without (.parameter position)).parameters := by
    refine List.mem_of_getElem? (i := position) ?_
    rw [without, List.getElem?_modify, found, Option.map_eq_map, Option.map_some, if_pos rfl]
  have typed := ((FunctionTable.exists_toRule_iff _).mp ⟨other, remade⟩).parameters _ member
  obtain ⟨name, ofEntry⟩ := Option.isSome_iff_exists.mp (typed.resolve_right Bool.false_ne_true)
  cases remade.symm.trans (named name ofEntry)
  exact ⟨⟨_, rfl⟩, FunctionRule.alike_withCriterion_iff silent⟩

/-- Without an empty pattern a table that still has a rule has one that suppresses alike exactly if the
criterion by the type name beside the pattern, if there is one, is idle. -/
theorem Table.alike_without_iff {table : Table} {rule other : Suppression} {property : PatternProperty}
    (made : table.toRule = .ok rule) (empty : table.patternText? property = some "")
    (remade : (table.without property).toRule = .ok other) :
    rule.Alike other ↔ (table.without property).SparesTypeName property := by
  have unchanged (same : (table.without property).toRule = table.toRule)
      (apart : ∀ position, property ≠ .parameter position) :
      rule.Alike other ↔ (table.without property).SparesTypeName property := by
    cases remade.symm.trans (same.trans made)
    exact ⟨fun _ position _ isParameter => absurd isParameter (apart position), fun _ => .refl rule⟩
  cases table with
  | aboutVariable table =>
    refine unchanged (congrArg (Suppression.aboutVariable <$> ·) (VariableTable.toRule_without empty)) ?_
    rintro position rfl
    contradiction
  | aboutType table =>
    refine unchanged (congrArg (Suppression.aboutType <$> ·) (TypeTable.toRule_without empty)) ?_
    rintro position rfl
    contradiction
  | aboutFunction table =>
    by_cases apart : ∀ position, property ≠ .parameter position
    · have same := FunctionTable.toRule_without empty apart
      exact unchanged (congrArg (Suppression.aboutFunction <$> ·) same) apart
    · obtain ⟨position, isParameter⟩ := not_forall_not.mp apart
      subst isParameter
      obtain ⟨inner, ofTable, rfl⟩ := map_eq_ok.mp made
      obtain ⟨changed, ofWithout, rfl⟩ := map_eq_ok.mp remade
      obtain ⟨⟨spec, replaced⟩, decided⟩ := FunctionTable.alike_without_iff ofTable empty ofWithout
      constructor
      · intro alike asked rule isParameter again
        cases isParameter
        cases remade.symm.trans again
        exact decided.mp alike.changes
      · intro spares
        have alike := decided.mpr (spares position changed rfl remade)
        subst replaced
        exact ⟨alike, fun _ => rfl, fun _ => rfl, fun _ => rfl⟩

/-- Rules of a file and of one that leaves a property of a table out suppress alike one by one exactly if
the rules of this table do. -/
theorem File.forall₂_alike_iff {file other : File} {table : Table} {property : PatternProperty}
    {rules others : List Suppression} (loaded : file.suppressions = .ok rules)
    (reloaded : other.suppressions = .ok others) (isWithout : other.IsWithout file table property) :
    List.Forall₂ Alike rules others ↔
      ∃ rule changed, table.toRule = .ok rule ∧ (table.without property).toRule = .ok changed ∧
        rule.Alike changed := by
  obtain ⟨placed, converted, _, rfl⟩ := suppressions_eq_ok_iff.mp loaded
  obtain ⟨replaced, reconverted, _, rfl⟩ := suppressions_eq_ok_iff.mp reloaded
  obtain ⟨shift, keeps, between⟩ := isWithout.forall₂_tables
  rw [forall₂_inOrder_of_tables (between.imp fun _ _ joined => joined.1) keeps converted reconverted]
  constructor
  · intro alike
    obtain ⟨before, after, place, shift, tables, _, otherTables⟩ := isWithout
    have found : file.tables[before.length]? = some (place, table) := by simp [tables]
    have foundToo : other.tables[before.length]? = some (shift place, table.without property) := by
      simp [otherTables]
    obtain ⟨result, atPlace, ofTable⟩ := exists_getElem?_of_forall₂ converted found
    obtain ⟨another, atPlaceToo, ofOther⟩ := exists_getElem?_of_forall₂ reconverted foundToo
    obtain ⟨_, same, between⟩ := exists_getElem?_of_forall₂ alike atPlace
    cases atPlaceToo.symm.trans same
    exact ⟨result.2, another.2, (Table.placed_eq_ok_iff.mp ofTable).2,
      (Table.placed_eq_ok_iff.mp ofOther).2, between⟩
  · rintro ⟨rule, changed, ofTable, ofOther, alike⟩
    refine (forall₂_of_forall₂ between converted reconverted).imp fun result another joined => ?_
    obtain ⟨entry, next, ⟨_, same | ⟨isTable, isOther⟩⟩, ofEntry, ofNext⟩ := joined
    · have made := (Table.placed_eq_ok_iff.mp ofEntry).2
      rw [← same, (Table.placed_eq_ok_iff.mp ofNext).2] at made
      rw [Except.ok.inj made]
      exact .refl result.2
    · have made := (Table.placed_eq_ok_iff.mp ofEntry).2
      have remade := (Table.placed_eq_ok_iff.mp ofNext).2
      rw [isTable, ofTable] at made
      rw [isOther, ofOther] at remade
      rwa [← Except.ok.inj made, ← Except.ok.inj remade]

/-- Rules of a file and of one that leaves an empty pattern of a table out suppress alike one by one exactly
if the pattern did not stand beside a type name that counts without it. -/
theorem File.forall₂_alike_iff_spares {file other : File} {table : Table} {property : PatternProperty}
    {rules others : List Suppression} (loaded : file.suppressions = .ok rules)
    (reloaded : other.suppressions = .ok others) (isWithout : other.IsWithout file table property)
    (empty : table.patternText? property = some "") :
    List.Forall₂ Alike rules others ↔ (table.without property).SparesTypeName property := by
  obtain ⟨sound, kept⟩ := isWithout.isSound_iff (file.exists_suppressions_iff.mp ⟨rules, loaded⟩)
  have resound := kept.mp (other.exists_suppressions_iff.mp ⟨others, reloaded⟩)
  obtain ⟨rule, made⟩ := table.exists_toRule_iff.mpr sound.complete
  obtain ⟨changed, remade⟩ := (table.without property).exists_toRule_iff.mpr resound.complete
  rw [File.forall₂_alike_iff loaded reloaded isWithout, ← Table.alike_without_iff made empty remade]
  constructor
  · rintro ⟨first, second, ofTable, ofOther, alike⟩
    cases made.symm.trans ofTable
    cases remade.symm.trans ofOther
    exact alike
  · exact fun alike => ⟨rule, changed, made, remade, alike⟩

/-- A file that leaves out a property with an empty pattern can still be loaded exactly if the property
was not all that a parameter entry had. Its rules then suppress the same functions, variables, parameters
and types, one by one, exactly if the pattern did not stand beside a type name that counts without it. -/
theorem parseFile_without_iff {text otherText : String} {file other : File} {table : Table}
    {property : PatternProperty} {rules : List Suppression} (origin : String)
    (shape : FileReader.file? text = some file) (otherShape : FileReader.file? otherText = some other)
    (loaded : parseFile text origin = .ok rules) (isWithout : other.IsWithout file table property)
    (empty : table.patternText? property = some "") :
    ((∃ others, parseFile otherText origin = .ok others) ↔
        ∀ entry ∈ (table.without property).parameters, entry.HasType) ∧
      ∀ others, parseFile otherText origin = .ok others →
        (List.Forall₂ Alike rules others ↔ (table.without property).SparesTypeName property) := by
  rw [parseFile, shape] at loaded
  rw [parseFile, otherShape]
  obtain ⟨sound, kept⟩ := isWithout.isSound_iff (file.exists_suppressions_iff.mp ⟨rules, loaded⟩)
  constructor
  · exact (other.exists_suppressions_iff.trans kept).trans (Table.isSound_without_iff sound property)
  · exact fun others reloaded => File.forall₂_alike_iff_spares loaded reloaded isWithout empty

/-- A table about a function whose parameter has a type name beside an empty pattern. -/
def blankTable : FunctionTable where
  name := some "put"
  parameters := [⟨0, some "int", some ""⟩]

/-- A text with this table alone. -/
def blankText : String :=
  "[[suppress_function]]\nname = \"put\"\n" ++
    "parameter = [\x7bindex = 0, type_name = \"int\", type_name_regexp = \"\"\x7d]\n"

/-- The same text without the pattern. -/
def clearedText : String :=
  "[[suppress_function]]\nname = \"put\"\nparameter = [\x7bindex = 0, type_name = \"int\"\x7d]\n"

/-- What the text with the pattern says. -/
def blankFile : File where
  functions := [(0, blankTable)]

/-- What the text without the pattern says. -/
def clearedFile : File where
  functions := [(0, blankTable.without (.parameter 0))]

/-- The rule of the table, whose criterion on the parameter accepts no type. -/
def blankRule : FunctionRule where
  name := ⟨some "put", pairOf none none⟩
  parameters := [⟨0, ⟨none, Pattern.ofText ""⟩⟩]

/-- The rule without the pattern, which is about parameters of one type. -/
def clearedRule : FunctionRule := blankRule.withCriterion 0 ⟨0, ⟨some "int", Pattern.absent⟩⟩

theorem file?_blankText : FileReader.file? blankText = some blankFile := by rfl

theorem file?_clearedText : FileReader.file? clearedText = some clearedFile := by rfl

theorem clearedFile_isWithout :
    clearedFile.IsWithout blankFile (.aboutFunction blankTable) (.parameter 0) :=
  ⟨[], [], 0, id, rfl, fun _ _ _ _ => Iff.rfl, rfl⟩

/-- A text with one table about functions has the rule of the table. -/
theorem parseFile_of_function {text : String} {table : FunctionTable} {rule : FunctionRule}
    (origin : String) (shape : FileReader.file? text = some { functions := [(0, table)] })
    (made : table.toRule = .ok rule) (passed : checkPatterns (.aboutFunction rule) = .ok ()) :
    parseFile text origin = .ok [.aboutFunction rule] := by
  rw [parseFile, shape]
  refine File.suppressions_eq_ok_iff.mpr ⟨[(0, .aboutFunction rule)], .cons ?_ .nil, ?_, ?_⟩
  · exact Table.placed_eq_ok_iff.mpr ⟨rfl, congrArg (Suppression.aboutFunction <$> ·) made⟩
  · intro result member
    cases List.mem_singleton.mp member
    exact passed
  · rw [inOrder, List.mergeSort_singleton, List.map_singleton]

theorem parseFile_blankText (origin : String) :
    parseFile blankText origin = .ok [.aboutFunction blankRule] :=
  parseFile_of_function origin file?_blankText rfl rfl

theorem parseFile_clearedText (origin : String) :
    parseFile clearedText origin = .ok [.aboutFunction clearedRule] :=
  parseFile_of_function origin file?_clearedText rfl rfl

/-- The text can be loaded without the empty pattern, and its rules then suppress other changes. -/
theorem parseFile_without_iff_blank :
    FileReader.file? blankText = some blankFile ∧ FileReader.file? clearedText = some clearedFile ∧
      parseFile blankText "blank" = .ok [.aboutFunction blankRule] ∧
      clearedFile.IsWithout blankFile (.aboutFunction blankTable) (.parameter 0) ∧
      (Table.aboutFunction blankTable).patternText? (.parameter 0) = some "" ∧
      (∃ others, parseFile clearedText "blank" = .ok others) ∧
      ∀ others, parseFile clearedText "blank" = .ok others →
        ¬ List.Forall₂ Alike [.aboutFunction blankRule] others := by
  have kept := parseFile_without_iff "blank" file?_blankText file?_clearedText
    (parseFile_blankText "blank") clearedFile_isWithout rfl
  refine ⟨file?_blankText, file?_clearedText, parseFile_blankText "blank", clearedFile_isWithout, rfl,
    kept.1.mpr ?_, fun others loaded alike => ?_⟩
  · intro entry member
    cases List.mem_singleton.mp member
    exact .inl rfl
  · have idle := (kept.2 others loaded).mp alike 0 clearedRule rfl rfl
    obtain ⟨⟨other, member, _⟩, _⟩ := idle ⟨0, ⟨some "int", Pattern.absent⟩⟩ "int" rfl rfl (by decide)
    contradiction

/-- An empty pattern beside the name of a type keeps a rule from suppressing the changes of a parameter of
this type, which it suppresses without the pattern. -/
theorem emptyPattern_shuts_typeName :
    parseFile blankText "blank" = .ok [.aboutFunction blankRule] ∧
      parseFile clearedText "blank" = .ok [.aboutFunction clearedRule] ∧
      FileReader.file? blankText = some blankFile ∧ FileReader.file? clearedText = some clearedFile ∧
      clearedFile.IsWithout blankFile (.aboutFunction blankTable) (.parameter 0) ∧
      (Table.aboutFunction blankTable).patternText? (.parameter 0) = some "" ∧
      blankRule.suppressesParameter 0 "int" = false ∧
      clearedRule.suppressesParameter 0 "int" = true :=
  ⟨parseFile_blankText "blank", parseFile_clearedText "blank", file?_blankText, file?_clearedText,
    clearedFile_isWithout, rfl, rfl, rfl⟩

end Abiscope.Suppression
