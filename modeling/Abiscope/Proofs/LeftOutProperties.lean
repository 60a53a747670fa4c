import Abiscope.Proofs.LoadedFiles
import Mathlib.Data.List.Forall2

/-!
# Properties that are left out

A property with an empty pattern may be left out of a table. Where the pattern is not that of a parameter,
the table has the very same rule without it. An entry about a parameter reads its type name only if it has
no pattern at all, so leaving out the empty pattern of an entry puts another criterion in the place of one
that accepts nothing; and an entry without a type name has nothing left, so that the table is refused.
-/

namespace Abiscope.Suppression

/-! ## Leaving a property out -/

/-- The properties that all tables share, but for one. -/
def HeaderTable.without (table : HeaderTable) : PatternProperty → HeaderTable
  | .fileName => { table with fileNamePattern := none }
  | .fileNameNot => { table with fileNameNotPattern := none }
  | .soname => { table with sonamePattern := none }
  | .sonameNot => { table with sonameNotPattern := none }
  | _ => table

/-- A parameter entry without its pattern. -/
def ParameterTable.withoutPattern (entry : ParameterTable) : ParameterTable :=
  { entry with typeNamePattern := none }

/-- A table about functions without a pattern property. -/
def FunctionTable.without (table : FunctionTable) : PatternProperty → FunctionTable
  | .name => { table with namePattern := none }
  | .nameNot => { table with nameNotPattern := none }
  | .symbolName => { table with symbolNamePattern := none }
  | .symbolNameNot => { table with symbolNameNotPattern := none }
  | .symbolVersion => { table with symbolVersionPattern := none }
  | .type => { table with returnTypePattern := none }
  | .parameter position =>
    { table with parameters := table.parameters.modify position ParameterTable.withoutPattern }
  | property => { table with header := table.header.without property }

/-- A table about variables without a pattern property. -/
def VariableTable.without (table : VariableTable) : PatternProperty → VariableTable
  | .name => { table with namePattern := none }
  | .nameNot => { table with nameNotPattern := none }
  | .symbolName => { table with symbolNamePattern := none }
  | .symbolNameNot => { table with symbolNameNotPattern := none }
  | .symbolVersion => { table with symbolVersionPattern := none }
  | .type => { table with typeNamePattern := none }
  | property => { table with header := table.header.without property }

/-- A table about types without a pattern property. -/
def TypeTable.without (table : TypeTable) : PatternProperty → TypeTable
  | .name => { table with namePattern := none }
  | .nameNot => { table with nameNotPattern := none }
  | .keptFiles => { table with locationNotPattern := none }
  | property => { table with header := table.header.without property }

/-- A table without a pattern property. -/
def Table.without : Table → PatternProperty → Table
  | aboutFunction table, property => aboutFunction (table.without property)
  | aboutVariable table, property => aboutVariable (table.without property)
  | aboutType table, property => aboutType (table.without property)

/-- A property other than that of a parameter makes no difference when it is empty. -/
theorem FunctionTable.toRule_without {table : FunctionTable} {property : PatternProperty}
    (empty : table.patternText? property = some "")
    (apart : ∀ position, property ≠ .parameter position) :
    (table.without property).toRule = table.toRule := by
  rcases table with ⟨⟨⟩⟩
  cases property with
  | parameter position => exact absurd rfl (apart position)
  | keptFiles => contradiction
  | _ =>
    simp only [patternText?, HeaderTable.patternText?] at empty
    subst empty
    rfl

/-- A property of a table about variables makes no difference when it is empty. -/
theorem VariableTable.toRule_without {table : VariableTable} {property : PatternProperty}
    (empty : table.patternText? property = some "") :
    (table.without property).toRule = table.toRule := by
  rcases table with ⟨⟨⟩⟩
  cases property with
  | parameter _ | keptFiles => contradiction
  | _ =>
    simp only [patternText?, HeaderTable.patternText?] at empty
    subst empty
    rfl

/-- A property of a table about types makes no difference when it is empty. -/
theorem TypeTable.toRule_without {table : TypeTable} {property : PatternProperty}
    (empty : table.patternText? property = some "") :
    (table.without property).toRule = table.toRule := by
  rcases table with ⟨⟨⟩⟩
  cases property with
  | name | nameNot | keptFiles | fileName | fileNameNot | soname | sonameNot =>
    simp only [patternText?, HeaderTable.patternText?] at empty
    subst empty
    rfl
  | _ => contradiction

/-! ## The entries of parameters -/

/-- A rule about functions with a criterion on a parameter in the place of another one. -/
def FunctionRule.withCriterion (rule : FunctionRule) (position : Nat) (spec : ParameterSpec) :
    FunctionRule :=
  { rule with parameters := rule.parameters.set position spec }

/-- The criterion of an entry with an empty pattern is there and has neither a pattern nor a type name,
whatever type name the entry has. Without the pattern the type name becomes the criterion. -/
theorem FunctionTable.toRule_without_parameter {table : FunctionTable} {rule : FunctionRule}
    (made : table.toRule = .ok rule) {position : Nat}
    (empty : table.patternText? (.parameter position) = some "") :
    ∃ entry, table.parameters[position]? = some entry ∧
      rule.parameters[position]? = some ⟨entry.index, ⟨none, Pattern.ofText ""⟩⟩ ∧
      ∀ name, entry.typeName = some name →
        (table.without (.parameter position)).toRule =
          .ok (rule.withCriterion position ⟨entry.index, ⟨some name, Pattern.absent⟩⟩) := by
  obtain ⟨entry, found, pattern⟩ := Option.bind_eq_some_iff.mp empty
  obtain ⟨changes, ofKeyword, made⟩ := bind_eq_ok.mp made
  obtain ⟨specs, ofEntries, made⟩ := bind_eq_ok.mp made
  have pairs := mapM_eq_ok_iff.mp ofEntries
  cases made
  refine ⟨entry, found, ?_, fun name named => ?_⟩
  · obtain ⟨spec, atPosition, ofEntry⟩ := exists_getElem?_of_forall₂ pairs found
    rw [ParameterTable.toSpec, pattern] at ofEntry
    cases ofEntry
    exact atPosition
  · have changed : (entry.withoutPattern.toSpec table.header.label) =
        .ok ⟨entry.index, ⟨some name, Pattern.absent⟩⟩ := by
      rw [ParameterTable.withoutPattern, ParameterTable.toSpec, named]
    exact bind_eq_ok.mpr ⟨changes, ofKeyword,
      bind_eq_ok.mpr ⟨_, mapM_eq_ok_iff.mpr (forall₂_modify pairs found changed), rfl⟩⟩

/-! ## Tables that stay sound -/

/-- The parameter entries of a table. Only tables about functions have some. -/
def Table.parameters : Table → List ParameterTable
  | aboutFunction table => table.parameters
  | aboutVariable _ | aboutType _ => []

/-- What is written in a table without a property was written before. -/
theorem FunctionTable.patternText?_of_without {table : FunctionTable} {property other : PatternProperty}
    {source : String} (written : (table.without property).patternText? other = some source) :
    table.patternText? other = some source := by
  cases property with
  | parameter position =>
    cases other with
    | parameter asked =>
      simp only [patternText?, without, List.getElem?_modify] at written ⊢
      cases found : table.parameters[asked]? with
      | none =>
        rw [found] at written
        contradiction
      | some entry =>
        simp only [found, Option.map_eq_map, Option.map_some, Option.bind_some] at written ⊢
        split at written
        · contradiction
        · exact written
    | _ => exact written
  | _ => cases other <;> first | exact written | contradiction

theorem VariableTable.patternText?_of_without {table : VariableTable} {property other : PatternProperty}
    {source : String} (written : (table.without property).patternText? other = some source) :
    table.patternText? other = some source := by
  cases property <;> cases other <;> first | exact written | contradiction

theorem TypeTable.patternText?_of_without {table : TypeTable} {property other : PatternProperty}
    {source : String} (written : (table.without property).patternText? other = some source) :
    table.patternText? other = some source := by
  cases property <;> cases other <;> first | exact written | contradiction

/-- A sound table without a property is sound exactly if each of its parameter entries has a type. -/
theorem Table.isSound_without_iff {table : Table} (sound : table.IsSound) (property : PatternProperty) :
    (table.without property).IsSound ↔
      ∀ entry ∈ (table.without property).parameters, entry.HasType := by
  obtain ⟨complete, patterns⟩ := sound
  cases table with
  | aboutFunction table =>
    refine ⟨fun sound => sound.complete.parameters, fun typed => ⟨⟨?_, typed⟩, ?_⟩⟩
    · cases property <;> exact complete.changes
    · intro other source written
      exact patterns other source (table.patternText?_of_without written)
  | aboutVariable table =>
    refine ⟨fun _ _ impossible => by contradiction, fun _ => ⟨⟨?_⟩, ?_⟩⟩
    · cases property <;> exact complete.changes
    · intro other source written
      exact patterns other source (table.patternText?_of_without written)
  | aboutType table =>
    refine ⟨fun _ _ impossible => by contradiction, fun _ => ⟨?_, ?_⟩⟩
    · cases property <;> exact ⟨complete.kind, complete.reach, complete.insertedAt,
        complete.insertedBetween⟩
    · intro other source written
      exact patterns other source (table.patternText?_of_without written)

/-! ## Files -/

/-- A file is another one but for a property of one table, which it leaves out. Its tables may begin at
other places, as long as these come in the same order. -/
def File.IsWithout (other file : File) (table : Table) (property : PatternProperty) : Prop :=
  ∃ (before after : List (Nat × Table)) (place : Nat) (shift : Nat → Nat),
    file.tables = before ++ (place, table) :: after ∧
      (∀ left ∈ file.tables, ∀ right ∈ file.tables,
        (shift left.1 ≤ shift right.1 ↔ left.1 ≤ right.1)) ∧
      other.tables = (before ++ (place, table.without property) :: after).map (Prod.map shift id)

/-- Rules at places are related one by one exactly if they are in the order of their places, where the
places on both sides come in the same order. -/
theorem forall₂_inOrder_iff {related : Suppression → Suppression → Prop}
    {placed others : List (Nat × Suppression)} {shift : Nat → Nat}
    (places : List.Forall₂ (fun first second => second.1 = shift first.1) placed others)
    (keeps : ∀ left ∈ placed, ∀ right ∈ placed, (shift left.1 ≤ shift right.1 ↔ left.1 ≤ right.1)) :
    List.Forall₂ related (inOrder placed) (inOrder others) ↔
      List.Forall₂ (fun first second => related first.2 second.2) placed others := by
  have left : (placed.zip others).map Prod.fst = placed :=
    List.map_fst_zip (Nat.le_of_eq places.length_eq)
  have right : (placed.zip others).map Prod.snd = others :=
    List.map_snd_zip (Nat.le_of_eq places.length_eq.symm)
  have moved : ∀ pair ∈ placed.zip others, pair.2.1 = shift pair.1.1 :=
    fun _ member => List.forall₂_zip places member
  generalize placed.zip others = pairs at left right moved
  subst left right
  -- Both sides are sorted as the pairs are by the places on the left.
  have first : ((pairs.mergeSort fun left right => left.1.1 ≤ right.1.1).map Prod.fst) =
      (pairs.map Prod.fst).mergeSort fun left right => left.1 ≤ right.1 :=
    List.map_mergeSort fun _ _ _ _ => rfl
  have second : ((pairs.mergeSort fun left right => left.1.1 ≤ right.1.1).map Prod.snd) =
      (pairs.map Prod.snd).mergeSort fun left right => left.1 ≤ right.1 := by
    refine List.map_mergeSort fun left member right memberToo => ?_
    rw [moved left member, moved right memberToo]
    exact decide_eq_decide.mpr
      (keeps _ (List.mem_map_of_mem member) _ (List.mem_map_of_mem memberToo)).symm
  rw [inOrder, inOrder, ← first, ← second]
  simp only [List.forall₂_map_left_iff, List.forall₂_map_right_iff, List.forall₂_same]
  exact forall_congr' fun _ => imp_congr_left (List.mergeSort_perm ..).mem_iff

/-- Rules of tables are related in the order of their places exactly if they are table by table, where the
places of the tables on both sides come in the same order. -/
theorem forall₂_inOrder_of_tables {related : Suppression → Suppression → Prop}
    {tables further : List (Nat × Table)} {placed others : List (Nat × Suppression)} {shift : Nat → Nat}
    (moved : List.Forall₂ (fun entry next => next.1 = shift entry.1) tables further)
    (keeps : ∀ left ∈ tables, ∀ right ∈ tables, (shift left.1 ≤ shift right.1 ↔ left.1 ≤ right.1))
    (converted : List.Forall₂ (fun entry result => Table.placed entry = .ok result) tables placed)
    (reconverted : List.Forall₂ (fun entry result => Table.placed entry = .ok result) further others) :
    List.Forall₂ related (inOrder placed) (inOrder others) ↔
      List.Forall₂ (fun first second => related first.2 second.2) placed others := by
  have places : List.Forall₂ (fun result another => another.1 = shift result.1) placed others := by
    refine (forall₂_of_forall₂ moved converted reconverted).imp fun result another joined => ?_
    obtain ⟨entry, next, isMoved, ofEntry, ofNext⟩ := joined
    rw [(Table.placed_eq_ok_iff.mp ofNext).1, isMoved, (Table.placed_eq_ok_iff.mp ofEntry).1]
  refine forall₂_inOrder_iff places fun left member right memberToo => ?_
  obtain ⟨entry, inside, ofEntry⟩ := exists_of_forall₂ converted.flip member
  obtain ⟨next, insideToo, ofNext⟩ := exists_of_forall₂ converted.flip memberToo
  rw [(Table.placed_eq_ok_iff.mp ofEntry).1, (Table.placed_eq_ok_iff.mp ofNext).1]
  exact keeps entry inside next insideToo

/-- Table by table, a file that leaves a property of a table out has the same tables at places that come in
the same order, or this table without the property. -/
theorem File.IsWithout.forall₂_tables {other file : File} {table : Table} {property : PatternProperty}
    (isWithout : other.IsWithout file table property) :
    ∃ shift : Nat → Nat,
      (∀ left ∈ file.tables, ∀ right ∈ file.tables,
        (shift left.1 ≤ shift right.1 ↔ left.1 ≤ right.1)) ∧
      List.Forall₂ (fun entry next => next.1 = shift entry.1 ∧
        (next.2 = entry.2 ∨ entry.2 = table ∧ next.2 = table.without property))
        file.tables other.tables := by
  obtain ⟨before, after, place, shift, tables, keeps, otherTables⟩ := isWithout
  refine ⟨shift, keeps, ?_⟩
  rw [tables, otherTables, List.map_append, forall₂_append_iff (List.length_map _).symm, List.map_cons,
    List.forall₂_cons, List.forall₂_map_right_iff, List.forall₂_map_right_iff]
  exact ⟨List.forall₂_same.mpr fun _ _ => ⟨rfl, .inl rfl⟩, ⟨rfl, .inr ⟨rfl, rfl⟩⟩,
    List.forall₂_same.mpr fun _ _ => ⟨rfl, .inl rfl⟩⟩

/-- If the tables of a file are sound, those of a file that leaves a property of a table out are exactly if
this table is sound without it. -/
theorem File.IsWithout.isSound_iff {other file : File} {table : Table} {property : PatternProperty}
    (isWithout : other.IsWithout file table property)
    (sound : ∀ entry ∈ file.tables, entry.2.IsSound) :
    table.IsSound ∧
      ((∀ entry ∈ other.tables, entry.2.IsSound) ↔ (table.without property).IsSound) := by
  obtain ⟨before, after, place, shift, tables, _, otherTables⟩ := isWithout
  rw [tables, List.forall_mem_append, List.forall_mem_cons] at sound
  rw [otherTables, List.forall_mem_map, List.forall_mem_append, List.forall_mem_cons]
  exact ⟨sound.2.1, fun all => all.2.1, fun changed => ⟨sound.1, changed, sound.2.2⟩⟩

end Abiscope.Suppression
