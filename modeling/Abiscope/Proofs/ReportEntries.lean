import Abiscope.Proofs.ReportSections
import Abiscope.Proofs.SurvivingChanges
import Mathlib.Data.List.Forall2

/-!
# The entries of changed functions and variables

Cut into entries, a report that leaves out what is suppressed has one entry for every changed function
and variable of which something is left to report, in their order, and no other ones that are marked as
changed. An entry opens with the name. Of the lines below, those that tell a change of a type are the
changes that survive in the types of the function or variable, in order, and every entry has some line
that tells what happened.
-/

namespace Abiscope

/-! ## What survives of a function or variable -/

/-- The difference between the types of a parameter that is there on both sides. -/
def ParameterChange.difference? : ParameterChange → Option TypeDifference
  | retyped difference => some difference
  | added _ | removed _ => none

/-- The changes that survive in the type of a parameter, unless the parameter is hidden itself. -/
def ParameterDifference.surviving (parameter : ParameterDifference) : List (Nat × TypeChange) :=
  if parameter.isSuppressed then []
  else parameter.change.difference?.toList.flatMap TypeDifference.surviving

/-- The changes that survive in the types of a function, first those of its result. -/
def FunctionDifference.surviving (difference : FunctionDifference) : List (Nat × TypeChange) :=
  difference.result.toList.flatMap TypeDifference.surviving ++
    difference.parameters.flatMap ParameterDifference.surviving

/-- The changes that survive in the type of a variable. -/
def VariableDifference.surviving (difference : VariableDifference) : List (Nat × TypeChange) :=
  difference.type.toList.flatMap TypeDifference.surviving

namespace Report

variable {options : Options}

/-! ## Lines below an entry -/

/-- The lines about a change of a symbol tell no change of a type. -/
theorem tellsTypeChange_symbolChange (change : Symbol.Change) (indent : Nat) :
    tellsTypeChange (indented indent change.text) = false := by
  cases change with
  | version old new =>
    exact tellsTypeChange_of_mem (by simp [otherOpenings])
      (((((Begins.refl "symbol version changed from '").append _).append _).append _).append _) indent
  | binding old new =>
    exact tellsTypeChange_of_mem (by simp [otherOpenings])
      ((((Begins.refl "symbol binding changed from ").append _).append _).append _) indent
  | kind old new =>
    exact tellsTypeChange_of_mem (by simp [otherOpenings])
      ((((Begins.refl "symbol type changed from ").append _).append _).append _) indent
  | visibility old new =>
    exact tellsTypeChange_of_mem (by simp [otherOpenings])
      ((((Begins.refl "symbol visibility changed from ").append _).append _).append _) indent
  | size old new =>
    exact tellsTypeChange_of_mem (by simp [otherOpenings])
      (((((Begins.refl "size of symbol changed from ").append _).append _).append _).append _) indent

/-- Of the lines about symbols none tells a change of a type. -/
theorem filter_symbolLines (changes : List Symbol.Change) :
    (changes.map fun change => indented 4 change.text).filter tellsTypeChange = [] := by
  rw [List.filter_eq_nil_iff]
  intro line member
  obtain ⟨change, _, rfl⟩ := List.mem_map.mp member
  rw [tellsTypeChange_symbolChange]
  exact Bool.false_ne_true

/-- Of the lines about a change of a type that may be missing, those that tell a change are those that
survive. -/
theorem filter_optionalTypeLines (hides : options.showSuppressed = false) {heading : String}
    (other : tellsTypeChange (indented 4 (heading ++ ":")) = false)
    (difference : Option TypeDifference) :
    (optionalTypeLines options heading difference).filter tellsTypeChange =
      (difference.toList.flatMap TypeDifference.surviving).map (survivingLine 4) := by
  cases difference with
  | none => rfl
  | some difference =>
    rw [Option.toList_some, List.flatMap_singleton]
    exact filter_typeLines hides other difference

/-- Nothing survives in a parameter of which nothing is left to report. -/
theorem surviving_eq_nil_of_isReportable {parameter : ParameterDifference}
    (nothing : parameter.isReportable = false) : parameter.surviving = [] := by
  rw [ParameterDifference.isReportable] at nothing
  rw [ParameterDifference.surviving]
  cases hidden : parameter.isSuppressed with
  | true => rfl
  | false =>
    rw [hidden] at nothing
    rw [if_neg Bool.false_ne_true]
    cases change : parameter.change with
    | retyped difference =>
      rw [change, Bool.not_false, Bool.true_and, ← Bool.not_eq_true, difference.isReportable_iff,
        not_not] at nothing
      exact (List.flatMap_singleton ..).trans nothing
    | added type => rfl
    | removed type => rfl

/-- Of the lines about a parameter, those that tell a change are those that survive. -/
theorem filter_parameterLines (hides : options.showSuppressed = false)
    (parameter : ParameterDifference) :
    (parameterLines options parameter).filter tellsTypeChange =
      parameter.surviving.map (survivingLine 4) := by
  rw [parameterLines, hides]
  cases reportable : parameter.isReportable with
  | false =>
    rw [surviving_eq_nil_of_isReportable reportable]
    rfl
  | true =>
    have shown : parameter.isSuppressed = false := by
      rw [ParameterDifference.isReportable, Bool.and_eq_true, Bool.not_eq_true'] at reportable
      exact reportable.1
    rw [ParameterDifference.surviving, shown]
    cases parameter.change with
    | retyped difference =>
      exact (filter_typeLines hides (tellsTypeChange_parameter
        (((((Begins.refl _).append _).append _).append _).append _) 4) difference).trans
          (congrArg _ (List.flatMap_singleton ..).symm)
    | added type =>
      refine (List.filter_cons_of_neg ?_).trans rfl
      exact Bool.eq_false_iff.mp (tellsTypeChange_parameter
        ((((((Begins.refl _).append _).append _).append _).append _).append _) 4)
    | removed type =>
      refine (List.filter_cons_of_neg ?_).trans rfl
      exact Bool.eq_false_iff.mp (tellsTypeChange_parameter
        ((((((Begins.refl _).append _).append _).append _).append _).append _) 4)

/-! ## What an entry shows -/

/-- What a line below an entry may tell: a change of the symbol, a parameter that was added or removed, or
a change of a type. -/
inductive Tells (symbols : List Symbol.Change) (parameters : List ParameterDifference) :
    String → Prop where
  | symbol {change : Symbol.Change} (member : change ∈ symbols) :
    Tells symbols parameters (indented 4 change.text)
  | added {parameter : ParameterDifference} {type : String} (member : parameter ∈ parameters)
    (added : parameter.change = .added type) :
    Tells symbols parameters
      (indented 4 (s!"parameter {parameter.index + 1} of type '{type}'" ++ " was added"))
  | removed {parameter : ParameterDifference} {type : String} (member : parameter ∈ parameters)
    (removed : parameter.change = .removed type) :
    Tells symbols parameters
      (indented 4 (s!"parameter {parameter.index + 1} of type '{type}'" ++ " was removed"))
  | type {line : String} (tells : tellsTypeChange line = true) : Tells symbols parameters line

/-- What an entry shows: it opens with a title, its lines that tell a change of a type are those of the
changes that survive, and some line tells what happened. -/
structure Shows (title : String) (symbols : List Symbol.Change) (parameters : List ParameterDifference)
    (surviving : List (Nat × TypeChange)) (entry : List String) : Prop where
  opening : ∃ rest, entry.head? = some (Mark.changed.text ++ title ++ rest)
  changes : entry.tail.filter tellsTypeChange = surviving.map (survivingLine 4)
  detail : ∃ line ∈ entry.tail, Tells symbols parameters line

/-- What the entry of a changed function shows. -/
def ShowsFunction (difference : FunctionDifference) : List String → Prop :=
  Shows s!"'function {difference.text}'" difference.symbolChanges difference.parameters
    difference.surviving

/-- What the entry of a changed variable shows. -/
def ShowsVariable (difference : VariableDifference) : List String → Prop :=
  Shows s!"'{difference.text}'" difference.symbolChanges [] difference.surviving

/-- If a change survives, a line tells it. -/
theorem exists_tells_of_ne_nil {lines : List String} {symbols : List Symbol.Change}
    {parameters : List ParameterDifference} {surviving : List (Nat × TypeChange)}
    (filtered : lines.filter tellsTypeChange = surviving.map (survivingLine 4))
    (something : surviving ≠ []) : ∃ line ∈ lines, Tells symbols parameters line := by
  obtain ⟨entry, others, rfl⟩ := List.exists_cons_of_ne_nil something
  have member : survivingLine 4 entry ∈ lines.filter tellsTypeChange := by
    rw [filtered, List.map_cons]
    exact List.mem_cons_self
  obtain ⟨inLines, tells⟩ := List.mem_filter.mp member
  exact ⟨_, inLines, .type tells⟩

/-- If something is left to report of a type that may be missing, something survives in it. -/
theorem surviving_ne_nil_of_any {difference : Option TypeDifference}
    (reportable : difference.any TypeDifference.isReportable = true) :
    difference.toList.flatMap TypeDifference.surviving ≠ [] := by
  obtain ⟨found, rfl, left⟩ := (Option.any_eq_true _ _).mp reportable
  rw [Option.toList_some, List.flatMap_singleton]
  exact found.isReportable_iff.mp left

/-- If a symbol changed, a line tells it. -/
theorem exists_tells_symbol {symbols : List Symbol.Change} (parameters : List ParameterDifference)
    (something : (!symbols.isEmpty) = true) :
    ∃ line ∈ symbols.map (fun change => indented 4 change.text), Tells symbols parameters line := by
  rw [Bool.not_eq_true', List.isEmpty_eq_false_iff_exists_mem] at something
  obtain ⟨change, member⟩ := something
  exact ⟨_, List.mem_map_of_mem member, .symbol member⟩

/-- If something is left to report of a parameter, a change of its type survives, or a line says that it
was added or removed. -/
theorem exists_tells_parameter {symbols : List Symbol.Change} {parameters : List ParameterDifference}
    {parameter : ParameterDifference} (member : parameter ∈ parameters)
    (reportable : parameter.isReportable = true) :
    parameter.surviving ≠ [] ∨
      ∃ line ∈ parameterLines options parameter, Tells symbols parameters line := by
  have shown : parameter.isSuppressed = false ∧ parameter.suppressedBy = none := by
    rw [ParameterDifference.isReportable, Bool.and_eq_true, Bool.not_eq_true'] at reportable
    exact ⟨reportable.1, Option.isSome_eq_false_iff.mp reportable.1 |> Option.isNone_iff_eq_none.mp⟩
  rw [parameterLines, reportable, ParameterDifference.surviving, shown.1, shown.2]
  cases change : parameter.change with
  | retyped difference =>
    rw [ParameterDifference.isReportable, shown.1, change] at reportable
    refine .inl ?_
    rw [if_neg Bool.false_ne_true, ParameterChange.difference?, Option.toList_some, List.flatMap_singleton]
    exact difference.isReportable_iff.mp reportable
  | added type =>
    refine .inr ⟨_, List.mem_singleton_self _, ?_⟩
    rw [labelSuffix, String.append_empty]
    exact .added member change
  | removed type =>
    refine .inr ⟨_, List.mem_singleton_self _, ?_⟩
    rw [labelSuffix, String.append_empty]
    exact .removed member change

/-- The entry of a function of which something is left to report shows what survives of it. -/
theorem showsFunction_functionEntry (hides : options.showSuppressed = false)
    {difference : FunctionDifference} (reportable : difference.isReportable = true) :
    ShowsFunction difference (functionEntry options difference) := by
  rw [FunctionDifference.isReportable, Bool.and_eq_true, Bool.or_eq_true, Bool.or_eq_true,
    Bool.not_eq_true'] at reportable
  obtain ⟨shown, something⟩ := reportable
  have lines : (functionEntry options difference).tail =
      (difference.symbolChanges.map fun change => indented 4 change.text) ++
        optionalTypeLines options "return type changed" difference.result ++
        difference.parameters.flatMap (parameterLines options) := by
    rw [functionEntry, shown, if_neg Bool.false_ne_true, List.tail_cons]
  have changes : (functionEntry options difference).tail.filter tellsTypeChange =
      difference.surviving.map (survivingLine 4) := by
    rw [lines, List.filter_append, List.filter_append, filter_symbolLines, List.nil_append,
      filter_optionalTypeLines hides, List.filter_flatMap, FunctionDifference.surviving, List.map_append]
    · simp only [filter_parameterLines hides, List.map_flatMap]
    · exact tellsTypeChange_of_mem (by simp [otherOpenings])
        ((Begins.refl "return type changed").append ":") 4
  refine ⟨?_, changes, ?_⟩
  · refine ⟨locationSuffix options difference.location ++ (" has some sub-type changes:" ++
      labelSuffix difference.suppressedBy), ?_⟩
    rw [functionEntry, List.head?_cons]
    simp only [String.append_assoc]
  · rcases something with (result | parameter) | symbols
    · refine exists_tells_of_ne_nil changes ?_
      rw [FunctionDifference.surviving]
      exact List.append_ne_nil_of_left_ne_nil (surviving_ne_nil_of_any result) _
    · obtain ⟨parameter, member, left⟩ := List.any_eq_true.mp parameter
      rcases exists_tells_parameter member left with survives | ⟨line, isLine, tells⟩
      · refine exists_tells_of_ne_nil changes fun nothing => survives ?_
        rw [FunctionDifference.surviving, List.append_eq_nil_iff] at nothing
        exact List.flatMap_eq_nil_iff.mp nothing.2 parameter member
      · refine ⟨line, ?_, tells⟩
        rw [lines]
        exact List.mem_append_right _ (List.mem_flatMap.mpr ⟨parameter, member, isLine⟩)
    · obtain ⟨line, isLine, tells⟩ := exists_tells_symbol difference.parameters symbols
      refine ⟨line, ?_, tells⟩
      rw [lines, List.append_assoc]
      exact List.mem_append_left _ isLine

/-- The entry of a variable of which something is left to report shows what survives of it. -/
theorem showsVariable_variableEntry (hides : options.showSuppressed = false)
    {difference : VariableDifference} (reportable : difference.isReportable = true) :
    ShowsVariable difference (variableEntry options difference) := by
  rw [VariableDifference.isReportable, Bool.and_eq_true, Bool.or_eq_true, Bool.not_eq_true'] at reportable
  obtain ⟨shown, something⟩ := reportable
  have lines : (variableEntry options difference).tail =
      (difference.symbolChanges.map fun change => indented 4 change.text) ++
        optionalTypeLines options "type of variable changed" difference.type := by
    rw [variableEntry, shown, if_neg Bool.false_ne_true, List.tail_cons]
  have changes : (variableEntry options difference).tail.filter tellsTypeChange =
      difference.surviving.map (survivingLine 4) := by
    rw [lines, List.filter_append, filter_symbolLines, List.nil_append, filter_optionalTypeLines hides]
    · rfl
    · exact tellsTypeChange_of_mem (by simp [otherOpenings])
        ((Begins.refl "type of variable changed").append ":") 4
  refine ⟨?_, changes, ?_⟩
  · refine ⟨locationSuffix options difference.location ++ (" was changed:" ++
      labelSuffix difference.suppressedBy), ?_⟩
    rw [variableEntry, List.head?_cons]
    simp only [String.append_assoc]
  · rcases something with type | symbols
    · exact exists_tells_of_ne_nil changes (surviving_ne_nil_of_any type)
    · obtain ⟨line, isLine, tells⟩ := exists_tells_symbol [] symbols
      refine ⟨line, ?_, tells⟩
      rw [lines]
      exact List.mem_append_left _ isLine

/-! ## Cutting a report into entries -/

/-- Whether a line opens the entry of something that changed. -/
def opensChange (line : String) : Bool := Mark.changed.text.toList.isPrefixOf line.toList

/-- The entries about what changed: a line that opens one, with the lines below it that lie deeper. -/
def changedEntries : List String → List (List String)
  | [] => []
  | line :: rest =>
    if opensChange line then (line :: rest.takeWhile liesDeep) :: changedEntries rest
    else changedEntries rest

/-- A line that opens no entry at all opens none about a change. -/
theorem opensChange_of_opensEntry {line : String} (opens : opensEntry line = false) :
    opensChange line = false := by
  rw [opensEntry, List.any_eq_false] at opens
  exact Bool.eq_false_iff.mpr (opens .changed (by decide))

/-- A line that begins with a letter opens no entry about a change, as a mark begins with a blank. -/
theorem opensChange_of_initial? {line : String} {letter : Char} (begins : initial? line = some letter)
    (other : letter ≠ ' ') : opensChange line = false := by
  refine opensChange_of_opensEntry (Bool.eq_false_iff.mpr fun opens => other ?_)
  exact Option.some.inj (begins.symm.trans (initial?_of_opensEntry opens))

/-- Lines that do not open an entry about a change are not part of one, unless they stand below one. -/
theorem changedEntries_append {above : List String}
    (none : ∀ line ∈ above, opensChange line = false) (below : List String) :
    changedEntries (above ++ below) = changedEntries below := by
  induction above with
  | nil => rfl
  | cons line rest inductionHypothesis =>
    obtain ⟨first, others⟩ := List.forall_mem_cons.mp none
    rw [List.cons_append, changedEntries, first, if_neg Bool.false_ne_true]
    exact inductionHypothesis others

/-- An entry about a change: it opens one, and all other lines lie deeper. -/
structure IsChangedEntry (entry : List String) : Prop where
  opens : entry.head?.any opensChange = true
  deep : ∀ line ∈ entry.tail, liesDeep line = true

/-- Lines that begin with one that does not lie deep, so that an entry in front of them ends there. -/
def EndsEntry (lines : List String) : Prop := lines.head?.any (fun line => !liesDeep line) = true

/-- A line that lies deep opens no entry about a change. -/
theorem opensChange_of_liesDeep {line : String} (deep : liesDeep line = true) :
    opensChange line = false :=
  opensChange_of_opensEntry (opensEntry_of_liesDeep deep)

/-- An entry is cut off where the lines end that lie deeper. -/
theorem changedEntries_entry {entry below : List String} (isEntry : IsChangedEntry entry)
    (ends : EndsEntry below) : changedEntries (entry ++ below) = entry :: changedEntries below := by
  obtain ⟨opens, deep⟩ := isEntry
  cases entry with
  | nil => contradiction
  | cons title details =>
    rw [List.head?_cons, Option.any_some] at opens
    rw [List.tail_cons] at deep
    have cut : (details ++ below).takeWhile liesDeep = details := by
      rw [List.takeWhile_append_of_pos deep]
      cases below with
      | nil => rw [List.takeWhile_nil, List.append_nil]
      | cons line rest =>
        rw [EndsEntry, List.head?_cons, Option.any_some, Bool.not_eq_true'] at ends
        rw [List.takeWhile_cons_of_neg (Bool.eq_false_iff.mp ends), List.append_nil]
    rw [List.cons_append, changedEntries, opens, if_pos rfl, cut,
      changedEntries_append fun line member => opensChange_of_liesDeep (deep line member)]

/-- Entries one behind the other are cut apart, as every one ends where the next one opens. -/
theorem changedEntries_flatten {entries : List (List String)} {below : List String}
    (areEntries : ∀ entry ∈ entries, IsChangedEntry entry) (ends : EndsEntry below) :
    changedEntries (entries.flatten ++ below) = entries ++ changedEntries below := by
  induction entries with
  | nil => rfl
  | cons entry rest inductionHypothesis =>
    obtain ⟨isEntry, others⟩ := List.forall_mem_cons.mp areEntries
    have next : EndsEntry (rest.flatten ++ below) := by
      cases rest with
      | nil => exact ends
      | cons other further =>
        have opens := (others other List.mem_cons_self).opens
        cases other with
        | nil => contradiction
        | cons title details =>
          rw [List.head?_cons, Option.any_some] at opens
          rw [EndsEntry, List.flatten_cons, List.cons_append, List.cons_append, List.head?_cons,
            Option.any_some, Bool.not_eq_true', ← Bool.not_eq_true]
          intro deep
          rw [opensChange_of_liesDeep deep] at opens
          contradiction
    rw [List.flatten_cons, List.append_assoc, changedEntries_entry isEntry next,
      inductionHypothesis others]
    rfl

/-! ## The sections of a report -/

/-- A blank line is not part of an entry. -/
theorem changedEntries_blank (below : List String) :
    changedEntries ("" :: below) = changedEntries below := by
  rw [changedEntries, show opensChange "" = false by decide, if_neg Bool.false_ne_true]

/-- A section that is not empty has, below its heading, the entries of its category and a blank line. -/
theorem changedEntries_lines {category : Category} (entries : category.entries ≠ [])
    (below : List String) :
    changedEntries (category.lines ++ below) =
      changedEntries (category.entries.flatten ++ "" :: below) := by
  obtain ⟨digit, begins, isDigit⟩ := exists_initial?_heading category
  have heading : opensChange category.heading = false := by
    refine opensChange_of_initial? begins ?_
    rintro rfl
    contradiction
  rw [Category.lines_eq, List.isEmpty_eq_false_iff.mpr entries, if_neg Bool.false_ne_true,
    List.cons_append, changedEntries, heading, if_neg Bool.false_ne_true, Category.body,
    List.cons_append, changedEntries_blank, List.append_assoc, List.singleton_append]

/-- The section of a category of changes has its entries. -/
theorem changedEntries_category {category : Category}
    (areEntries : ∀ entry ∈ category.entries, IsChangedEntry entry) (below : List String) :
    changedEntries (category.lines ++ below) = category.entries ++ changedEntries below := by
  by_cases entries : category.entries = []
  · rw [Category.lines, entries]
    rfl
  · have ends : EndsEntry ("" :: below) := rfl
    rw [changedEntries_lines entries, changedEntries_flatten areEntries ends, changedEntries_blank]

/-- The section of another category has no entry about a change. -/
theorem changedEntries_otherCategory {category : Category}
    (others : ∀ entry ∈ category.entries, ∀ line ∈ entry, opensChange line = false)
    (below : List String) : changedEntries (category.lines ++ below) = changedEntries below := by
  by_cases entries : category.entries = []
  · rw [Category.lines, entries]
    rfl
  · rw [changedEntries_lines entries, changedEntries_append, changedEntries_blank]
    intro line member
    obtain ⟨entry, isEntry, inside⟩ := List.mem_flatten.mp member
    exact others entry isEntry line inside

/-- Another mark opens no entry about a change. -/
theorem opensChange_mark {mark : Mark} (other : mark ≠ .changed) (rest : String) :
    opensChange (mark.text ++ rest) = false := by
  rw [opensChange, String.toList_append]
  cases mark with
  | deleted => rfl
  | added => rfl
  | changed => exact absurd rfl other

/-- What is on one side only has no entry about a change. -/
theorem changedEntries_entityCategory {mark : Mark} (other : mark ≠ .changed) (noun what : String)
    (changes : List EntityChange) (below : List String) :
    changedEntries ((entityCategory options mark noun what changes).lines ++ below) =
      changedEntries below := by
  refine changedEntries_otherCategory (fun entry isEntry line member => ?_) below
  obtain ⟨change, _, rfl⟩ := List.mem_map.mp isEntry
  rw [entityEntry, List.mem_singleton] at member
  subst member
  simp only [String.append_assoc]
  exact opensChange_mark other _

/-- A symbol on one side only has no entry about a change. -/
theorem changedEntries_symbolCategory {mark : Mark} (other : mark ≠ .changed) (noun : String)
    (changes : List SymbolChange) (below : List String) :
    changedEntries ((symbolCategory options mark noun changes).lines ++ below) =
      changedEntries below := by
  refine changedEntries_otherCategory (fun entry isEntry line member => ?_) below
  obtain ⟨change, _, rfl⟩ := List.mem_map.mp isEntry
  rw [symbolEntry, List.mem_singleton] at member
  subst member
  simp only [String.append_assoc]
  exact opensChange_mark other _

/-- The mark of a change opens an entry about one. -/
theorem opensChange_changed (rest : String) : opensChange (Mark.changed.text ++ rest) = true := by
  rw [opensChange, List.isPrefixOf_iff_prefix, String.toList_append]
  exact List.prefix_append _ _

/-- The entry of a function is one about a change. -/
theorem isChangedEntry_functionEntry (options : Options) (difference : FunctionDifference) :
    IsChangedEntry (functionEntry options difference) := by
  refine ⟨?_, liesDeep_functionEntry⟩
  simp only [functionEntry, List.head?_cons, Option.any_some, String.append_assoc]
  exact opensChange_changed _

/-- The entry of a variable is one about a change. -/
theorem isChangedEntry_variableEntry (options : Options) (difference : VariableDifference) :
    IsChangedEntry (variableEntry options difference) := by
  refine ⟨?_, liesDeep_variableEntry⟩
  simp only [variableEntry, List.head?_cons, Option.any_some, String.append_assoc]
  exact opensChange_changed _

/-- What stands in front of the sections opens no entry. -/
theorem changedEntries_front (difference : Difference) (below : List String) :
    changedEntries (leadingLines difference ++ summaryLines options difference.statistics ++ [""] ++
      below) = changedEntries below := by
  have solid : ∀ letter ∈ ['E', 'a', 'n', 'F', 'V'], letter ≠ ' ' := by simp
  refine changedEntries_append (fun line member => ?_) below
  rcases initial?_front member with rfl | ⟨letter, isLetter, begins⟩
  · decide
  · exact opensChange_of_initial? begins (solid letter isLetter)

/-- A report has, about what changed, the entries of the two categories of changed functions and
variables. -/
theorem changedEntries_report (options : Options) (difference : Difference) :
    changedEntries (lines options difference) =
      (functionCategory options difference.changedFunctions).entries ++
        (variableCategory options difference.changedVariables).entries := by
  have functions : ∀ entry ∈ (functionCategory options difference.changedFunctions).entries,
      IsChangedEntry entry := by
    intro entry member
    obtain ⟨changed, _, rfl⟩ := List.mem_map.mp member
    exact isChangedEntry_functionEntry options changed
  have globals : ∀ entry ∈ (variableCategory options difference.changedVariables).entries,
      IsChangedEntry entry := by
    intro entry member
    obtain ⟨changed, _, rfl⟩ := List.mem_map.mp member
    exact isChangedEntry_variableEntry options changed
  have notDeleted : Mark.deleted ≠ .changed := by decide
  have notAdded : Mark.added ≠ .changed := by decide
  rw [lines_eq, changedEntries_front, categories, List.flatMap_append]
  simp only [List.flatMap_cons, List.flatMap_nil, List.append_assoc, List.nil_append,
    changedEntries_entityCategory notDeleted, changedEntries_entityCategory notAdded,
    changedEntries_category functions, changedEntries_category globals]
  -- Only the symbols without a declaration come behind these, if they are shown at all.
  refine congrArg _ ((congrArg _ ?_).trans (List.append_nil _))
  split
  · simp only [List.flatMap_cons, List.flatMap_nil, changedEntries_symbolCategory notDeleted,
      changedEntries_symbolCategory notAdded, changedEntries]
  · rfl

/-- What is listed where nothing suppressed is shown is what is left to report. -/
theorem forall₂_shown {δ : Type} {isReportable hasChanges : δ → Bool} {entry : δ → List String}
    {shows : δ → List String → Prop}
    (each : ∀ difference, isReportable difference = true → shows difference (entry difference))
    (differences : List δ) :
    List.Forall₂ shows (differences.filter isReportable)
      ((differences.filter fun difference =>
        isReportable difference || (false && hasChanges difference)).map entry) := by
  simp only [Bool.false_and, Bool.or_false]
  rw [List.forall₂_map_right_iff, List.forall₂_same]
  exact fun difference member => each difference (List.mem_filter.mp member).2

/-- A report that leaves out what is suppressed has entries for the functions and variables of which
something is left to report, in their order, and no other entries about changes. Every entry opens with
the name, shows the changes of types that survive and no others, and tells something. -/
theorem changedEntries_hiding (options : Options) (difference : Difference) :
    let hidden := { options with showSuppressed := false }
    ∃ functions globals, changedEntries (lines hidden difference) = functions ++ globals ∧
      List.Forall₂ ShowsFunction
        (difference.changedFunctions.filter FunctionDifference.isReportable) functions ∧
      List.Forall₂ ShowsVariable
        (difference.changedVariables.filter VariableDifference.isReportable) globals := by
  intro hidden
  exact ⟨_, _, changedEntries_report hidden difference,
    forall₂_shown (fun _ => showsFunction_functionEntry rfl) _,
    forall₂_shown (fun _ => showsVariable_variableEntry rfl) _⟩

end Report

end Abiscope
