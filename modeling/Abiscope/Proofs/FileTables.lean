import Abiscope.Proofs.Readings
import Abiscope.Suppression.File
import Mathlib.Data.List.Forall2

/-!
# Tables of suppression files

The tables of a file are of three kinds, which are converted alike: table by table in the order of the
kinds, then sorted by their places, then checked. A table is converted exactly if it is complete, that is,
if each keyword is one of those for its place and each parameter entry has a type. Its rule is checked
exactly by all its patterns, and these are the pattern properties of the table.
-/

namespace Abiscope.Suppression

/-! ## Tables of any kind -/

/-- A table of any kind. -/
inductive Table where
  | aboutFunction (table : FunctionTable)
  | aboutVariable (table : VariableTable)
  | aboutType (table : TypeTable)

/-- The rule of a table, which is about the same kind of thing. -/
def Table.toRule : Table → Except FileError Suppression
  | aboutFunction table => Suppression.aboutFunction <$> table.toRule
  | aboutVariable table => Suppression.aboutVariable <$> table.toRule
  | aboutType table => Suppression.aboutType <$> table.toRule

/-- The tables of a file, kind by kind, each with its place. -/
def File.tables (file : File) : List (Nat × Table) :=
  file.functions.map (Prod.map id .aboutFunction) ++ file.globals.map (Prod.map id .aboutVariable) ++
    file.types.map (Prod.map id .aboutType)

/-- The rule of a table at the place of the table. -/
def Table.placed (entry : Nat × Table) : Except FileError (Nat × Suppression) :=
  (entry.1, ·) <$> entry.2.toRule

/-- Rules in the order of their places. -/
def inOrder (placed : List (Nat × Suppression)) : List Suppression :=
  (placed.mergeSort fun left right => left.1 ≤ right.1).map Prod.snd

/-- Tables of one kind are converted as tables of any kind. -/
theorem toRules_eq_mapM {α β : Type} {convert : α → Except FileError β} {about : β → Suppression}
    {wrap : α → Table} (same : ∀ table, (wrap table).toRule = about <$> convert table)
    (tables : List (Nat × α)) :
    toRules convert about tables = (tables.map (Prod.map id wrap)).mapM Table.placed := by
  rw [List.mapM_map]
  refine congrArg (tables.mapM ·) (funext fun entry => ?_)
  obtain ⟨start, table⟩ := entry
  simp only [Function.comp, Table.placed, Prod.map_apply, id_eq, same]
  cases convert table <;> rfl

/-- The rules of a file are made in one pass over all its tables. -/
theorem File.suppressions_eq (file : File) :
    file.suppressions = do
      let placed ← file.tables.mapM Table.placed
      (inOrder placed).forM checkPatterns
      return inOrder placed := by
  rw [suppressions, toRules_eq_mapM (fun _ => rfl : ∀ table, (Table.aboutFunction table).toRule = _),
    toRules_eq_mapM (fun _ => rfl : ∀ table, (Table.aboutVariable table).toRule = _),
    toRules_eq_mapM (fun _ => rfl : ∀ table, (Table.aboutType table).toRule = _), tables]
  simp only [List.mapM_append, bind_assoc, pure_bind]
  rfl

/-- A file has rules exactly if each table has one that passes the check of its patterns. They stand in
the order of the places. -/
theorem File.suppressions_eq_ok_iff {file : File} {rules : List Suppression} :
    file.suppressions = .ok rules ↔
      ∃ placed, List.Forall₂ (fun entry result => Table.placed entry = .ok result) file.tables placed ∧
        (∀ result ∈ placed, checkPatterns result.2 = .ok ()) ∧ rules = inOrder placed := by
  have checked (placed : List (Nat × Suppression)) :
      (inOrder placed).forM checkPatterns = .ok () ↔
        ∀ result ∈ placed, checkPatterns result.2 = .ok () := by
    rw [forM_eq_ok_iff, inOrder, List.forall_mem_map]
    exact forall_congr' fun _ => imp_congr_left (List.mergeSort_perm ..).mem_iff
  rw [suppressions_eq, bind_eq_ok]
  constructor
  · rintro ⟨placed, converted, made⟩
    obtain ⟨_, passed, made⟩ := bind_eq_ok.mp made
    exact ⟨placed, mapM_eq_ok_iff.mp converted, (checked placed).mp passed, (Except.ok.inj made).symm⟩
  · rintro ⟨placed, converted, passed, rfl⟩
    exact ⟨placed, mapM_eq_ok_iff.mpr converted,
      bind_eq_ok.mpr ⟨(), (checked placed).mpr passed, rfl⟩⟩

/-- The rule of a table at its place. -/
theorem Table.placed_eq_ok_iff {entry : Nat × Table} {result : Nat × Suppression} :
    Table.placed entry = .ok result ↔ result.1 = entry.1 ∧ entry.2.toRule = .ok result.2 := by
  rw [placed, map_eq_ok]
  constructor
  · rintro ⟨rule, made, rfl⟩
    exact ⟨rfl, made⟩
  · rintro ⟨place, made⟩
    exact ⟨result.2, made, Prod.ext place.symm rfl⟩

/-! ## Complete tables -/

/-- A keyword is left out or one of those for its place. -/
def IsKnown (words : List String) (keyword : Option String) : Prop :=
  ∀ word, keyword = some word → word ∈ words

/-- A boundary is an offset or the one keyword for boundaries. -/
def BoundaryValue.IsKnown (value : BoundaryValue) : Prop := ∀ word, value = keyword word → word = "end"

/-- A parameter entry has a type name or a pattern for it. -/
def ParameterTable.HasType (entry : ParameterTable) : Prop :=
  entry.typeName.isSome = true ∨ entry.typeNamePattern.isSome = true

/-- The keywords for the changes of something that changes. -/
def changeWords (thing : String) : List String :=
  ["all", "added-" ++ thing, "deleted-" ++ thing, thing ++ "-subtype-change"]

/-- The words for sorts of types. -/
def kindWords : List String := ["class", "struct", "union", "enum", "array", "typedef", "builtin"]

/-- The words for ways of reaching a type. -/
def reachWords : List String := ["direct", "pointer", "reference", "reference-or-pointer", "indirect"]

/-- A table about functions whose keyword is known and whose parameter entries have types. -/
structure FunctionTable.IsComplete (table : FunctionTable) : Prop where
  changes : IsKnown (changeWords "function") table.changeKind
  parameters : ∀ entry ∈ table.parameters, entry.HasType

/-- A table about variables whose keyword is known. -/
structure VariableTable.IsComplete (table : VariableTable) : Prop where
  changes : IsKnown (changeWords "variable") table.changeKind

/-- A table about types whose keywords are known. -/
structure TypeTable.IsComplete (table : TypeTable) : Prop where
  kind : IsKnown kindWords table.typeKind
  reach : IsKnown reachWords table.accessedThrough
  insertedAt : ∀ value, table.insertedAt = some value → value.IsKnown
  insertedBetween : ∀ range ∈ table.insertedBetween, range.1.IsKnown ∧ range.2.IsKnown

/-- A table whose keywords are known and whose parameter entries have types. -/
def Table.IsComplete : Table → Prop
  | aboutFunction table => table.IsComplete
  | aboutVariable table => table.IsComplete
  | aboutType table => table.IsComplete

/-- Kinds of change are read exactly from the keywords for them. -/
theorem exists_changesOf_iff (table : HeaderTable) (keyword : Option String)
    (added deleted subtype : String) :
    (∃ changes, changesOf table keyword added deleted subtype = .ok changes) ↔
      IsKnown ["all", added, deleted, subtype] keyword := by
  cases keyword with
  | none => exact ⟨fun _ _ impossible => by contradiction, fun _ => ⟨_, rfl⟩⟩
  | some word =>
    simp only [IsKnown, Option.some_inj, forall_eq', List.mem_cons, List.not_mem_nil, or_false,
      changesOf, beq_iff_eq]
    split_ifs with first second third fourth <;> simp [*]

/-- What a keyword stands for is read exactly from the words that stand for something. -/
theorem exists_keywordOf_iff {α : Type} {ofWord? : String → Option α} {words : List String}
    (known : ∀ word, (ofWord? word).isSome = true ↔ word ∈ words) (label property : String)
    (keyword : Option String) :
    (∃ value, keywordOf label property ofWord? keyword = .ok value) ↔ IsKnown words keyword := by
  cases keyword with
  | none => exact ⟨fun _ _ impossible => by contradiction, fun _ => ⟨_, rfl⟩⟩
  | some word =>
    simp only [IsKnown, Option.some_inj, forall_eq', keywordOf, ← known]
    cases ofWord? word with
    | none => simp
    | some value => simp

theorem isSome_typeKind_iff (word : String) :
    (TypeKind.ofWord? word).isSome = true ↔ word ∈ kindWords := by
  unfold TypeKind.ofWord?
  split <;> simp_all [kindWords]

theorem isSome_reachKind_iff (word : String) :
    (ReachKind.ofWord? word).isSome = true ↔ word ∈ reachWords := by
  unfold ReachKind.ofWord?
  split <;> simp_all [reachWords]

/-- A boundary is read exactly if its keyword is known. -/
theorem exists_toBoundary_iff (label property : String) (value : BoundaryValue) :
    (∃ boundary, value.toBoundary label property = .ok boundary) ↔ value.IsKnown := by
  cases value with
  | offset bits => exact ⟨fun _ _ impossible => by contradiction, fun _ => ⟨_, rfl⟩⟩
  | keyword word =>
    simp only [BoundaryValue.IsKnown, BoundaryValue.keyword.injEq, forall_eq',
      BoundaryValue.toBoundary, beq_iff_eq]
    split_ifs with known <;> simp [known]

/-- The criterion of a parameter entry is read exactly if the entry has a type. -/
theorem exists_toSpec_iff (label : String) (entry : ParameterTable) :
    (∃ spec, entry.toSpec label = .ok spec) ↔ entry.HasType := by
  rw [ParameterTable.toSpec, ParameterTable.HasType]
  cases entry.typeNamePattern <;> cases entry.typeName <;> simp

/-- A table about functions is converted exactly if it is complete. -/
theorem FunctionTable.exists_toRule_iff (table : FunctionTable) :
    (∃ rule, table.toRule = .ok rule) ↔ table.IsComplete := by
  constructor
  · rintro ⟨rule, made⟩
    obtain ⟨changes, ofKeyword, made⟩ := bind_eq_ok.mp made
    obtain ⟨specs, ofEntries, _⟩ := bind_eq_ok.mp made
    refine ⟨(exists_changesOf_iff ..).mp ⟨changes, ofKeyword⟩, fun entry member => ?_⟩
    exact (exists_toSpec_iff ..).mp (exists_mapM_eq_ok_iff.mp ⟨specs, ofEntries⟩ entry member)
  · rintro ⟨known, typed⟩
    obtain ⟨changes, ofKeyword⟩ := (exists_changesOf_iff table.header ..).mpr known
    obtain ⟨specs, ofEntries⟩ := exists_mapM_eq_ok_iff.mpr fun entry member =>
      (exists_toSpec_iff table.header.label entry).mpr (typed entry member)
    exact ⟨_, bind_eq_ok.mpr ⟨changes, ofKeyword, bind_eq_ok.mpr ⟨specs, ofEntries, rfl⟩⟩⟩

/-- A table about variables is converted exactly if it is complete. -/
theorem VariableTable.exists_toRule_iff (table : VariableTable) :
    (∃ rule, table.toRule = .ok rule) ↔ table.IsComplete := by
  constructor
  · rintro ⟨rule, made⟩
    obtain ⟨changes, ofKeyword, _⟩ := bind_eq_ok.mp made
    exact ⟨(exists_changesOf_iff ..).mp ⟨changes, ofKeyword⟩⟩
  · rintro ⟨known⟩
    obtain ⟨changes, ofKeyword⟩ := (exists_changesOf_iff table.header ..).mpr known
    exact ⟨_, bind_eq_ok.mpr ⟨changes, ofKeyword, rfl⟩⟩

/-- A table about types is converted exactly if it is complete. -/
theorem TypeTable.exists_toRule_iff (table : TypeTable) :
    (∃ rule, table.toRule = .ok rule) ↔ table.IsComplete := by
  constructor
  · rintro ⟨rule, made⟩
    obtain ⟨kind, ofKind, made⟩ := bind_eq_ok.mp made
    obtain ⟨reach, ofReach, made⟩ := bind_eq_ok.mp made
    obtain ⟨at_, ofAt, made⟩ := bind_eq_ok.mp made
    obtain ⟨between, ofBetween, _⟩ := bind_eq_ok.mp made
    refine ⟨(exists_keywordOf_iff isSome_typeKind_iff ..).mp ⟨kind, ofKind⟩,
      (exists_keywordOf_iff isSome_reachKind_iff ..).mp ⟨reach, ofReach⟩, fun value given => ?_,
      fun range member => ?_⟩
    · obtain ⟨_, made⟩ := exists_mapM_eq_ok_iff.mp ⟨at_, ofAt⟩ value (Option.mem_toList.mpr given)
      obtain ⟨boundary, ofValue, _⟩ := bind_eq_ok.mp made
      exact (exists_toBoundary_iff ..).mp ⟨boundary, ofValue⟩
    · obtain ⟨_, made⟩ := exists_mapM_eq_ok_iff.mp ⟨between, ofBetween⟩ range member
      obtain ⟨first, ofFirst, made⟩ := bind_eq_ok.mp made
      obtain ⟨last, ofLast, _⟩ := bind_eq_ok.mp made
      exact ⟨(exists_toBoundary_iff ..).mp ⟨first, ofFirst⟩,
        (exists_toBoundary_iff ..).mp ⟨last, ofLast⟩⟩
  · rintro ⟨ofKind, ofReach, ofAt, ofBetween⟩
    obtain ⟨kind, ofKind⟩ :=
      (exists_keywordOf_iff isSome_typeKind_iff table.header.label "type_kind" _).mpr ofKind
    obtain ⟨reach, ofReach⟩ :=
      (exists_keywordOf_iff isSome_reachKind_iff table.header.label "accessed_through" _).mpr ofReach
    have each (property : String) {value : BoundaryValue} (known : value.IsKnown) :=
      (exists_toBoundary_iff table.header.label property value).mpr known
    obtain ⟨at_, ofAt⟩ := exists_mapM_eq_ok_iff.mpr fun value given => by
      obtain ⟨boundary, ofValue⟩ :=
        each "has_data_member_inserted_at" (ofAt value (Option.mem_toList.mp given))
      exact ⟨InsertionRange.mk boundary boundary, bind_eq_ok.mpr ⟨boundary, ofValue, rfl⟩⟩
    obtain ⟨between, ofBetween⟩ := exists_mapM_eq_ok_iff.mpr fun range member => by
      obtain ⟨first, ofFirst⟩ := each "has_data_member_inserted_between" (ofBetween range member).1
      obtain ⟨last, ofLast⟩ := each "has_data_member_inserted_between" (ofBetween range member).2
      exact ⟨InsertionRange.mk first last,
        bind_eq_ok.mpr ⟨first, ofFirst, bind_eq_ok.mpr ⟨last, ofLast, rfl⟩⟩⟩
    exact ⟨_, bind_eq_ok.mpr ⟨kind, ofKind, bind_eq_ok.mpr ⟨reach, ofReach,
      bind_eq_ok.mpr ⟨at_, ofAt, bind_eq_ok.mpr ⟨between, ofBetween, rfl⟩⟩⟩⟩⟩

/-- A table is converted exactly if it is complete. -/
theorem Table.exists_toRule_iff (table : Table) :
    (∃ rule, table.toRule = .ok rule) ↔ table.IsComplete := by
  have wrapped {α : Type} {convert : Except FileError α} {about : α → Suppression} :
      (∃ rule, about <$> convert = .ok rule) ↔ ∃ rule, convert = .ok rule := by
    constructor
    · rintro ⟨_, made⟩
      obtain ⟨rule, made, _⟩ := map_eq_ok.mp made
      exact ⟨rule, made⟩
    · rintro ⟨rule, rfl⟩
      exact ⟨about rule, rfl⟩
  cases table with
  | aboutFunction table => exact wrapped.trans table.exists_toRule_iff
  | aboutVariable table => exact wrapped.trans table.exists_toRule_iff
  | aboutType table => exact wrapped.trans table.exists_toRule_iff

end Abiscope.Suppression
