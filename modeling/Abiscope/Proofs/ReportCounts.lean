import Abiscope.Proofs.RelatedDeclarations
import Abiscope.Proofs.ReportSections

/-!
# Report, counts and status

Three parts of the program decide on their own what is left of a difference once suppressions have hidden
what they hide: the sections of a report filter the entries, the counts subtract those that are suppressed,
and the status asks whether any entry is left. They judge changed functions and variables by different
tests. A section shows an entry that is left to report, while the counts subtract an entry whose changes
are all hidden, which an entry without changes would pass. The comparison of two corpora lists no such entry,
and so the sections and the summary that are found in the written report agree with the counts and the
status.
-/

namespace Abiscope

namespace Difference

open Suppression (Context)

/-! ## What is listed as changed has changes -/

/-- Every function and every variable that is listed as changed has changes. -/
structure ListsChanges (difference : Difference) : Prop where
  functions : ∀ entry ∈ difference.changedFunctions, entry.hasChanges = true
  globals : ∀ entry ∈ difference.changedVariables, entry.hasChanges = true

/-- An entry about a function stands for changes. -/
theorem hasChanges_changedFunction {context : Context} {comparison : TypeComparison} {first second : Side}
    {item : String × Bound FunctionDeclaration × Bound FunctionDeclaration}
    {memory : TypeComparison.Memory} {found : FunctionDifference}
    (made : (changedFunction context comparison first second item memory).1 = some found) :
    found.hasChanges = true := by
  obtain ⟨changed, labelled⟩ := label_changedFunction made
  rw [← labelled, (key_labelFunction _ _ _ _).2]
  exact changed

/-- An entry about a variable stands for changes. -/
theorem hasChanges_changedVariable {context : Context} {comparison : TypeComparison} {first second : Side}
    {item : String × Bound VariableDeclaration × Bound VariableDeclaration}
    {memory : TypeComparison.Memory} {found : VariableDifference}
    (made : (changedVariable context comparison first second item memory).1 = some found) :
    found.hasChanges = true := by
  obtain ⟨changed, labelled⟩ := label_changedVariable made
  rw [← labelled]
  exact changed

/-- The comparison of two corpora lists no function or variable without changes. -/
theorem listsChanges_ofCorpora (first second : Corpus) (suppressions : List Suppression)
    (options : Options) : (ofCorpora first second suppressions options).ListsChanges := by
  constructor
  case functions =>
    intro entry member
    rw [changedFunctions_ofCorpora] at member
    obtain ⟨item, _, between, made⟩ := TypeComparison.exists_of_mem_eachOf member
    exact hasChanges_changedFunction made
  case globals =>
    intro entry member
    rw [changedVariables_ofCorpora] at member
    obtain ⟨item, _, between, made⟩ := TypeComparison.exists_of_mem_eachOf member
    exact hasChanges_changedVariable made

/-! ## What the counts leave to report -/

/-- Of entries that all have changes, those are left to report that are not filtered out. -/
theorem reportable_of_changed {ε : Type} {isReportable hasChanges isFilteredOut : ε → Bool}
    (filtered : ∀ entry, isFilteredOut entry = (hasChanges entry && !isReportable entry))
    {entries : List ε} (changed : ∀ entry ∈ entries, hasChanges entry = true) :
    (ChangeCount.of isFilteredOut entries).reportable = entries.countP isReportable := by
  rw [ChangeCount.reportable_of]
  refine List.countP_congr fun entry member => ?_
  rw [filtered, changed entry member, Bool.true_and, Bool.not_not]

variable {difference : Difference}

theorem reportable_changedFunctions (lists : difference.ListsChanges) :
    difference.statistics.changedFunctions.reportable =
      difference.changedFunctions.countP FunctionDifference.isReportable :=
  reportable_of_changed (fun _ => rfl) lists.functions

theorem reportable_changedVariables (lists : difference.ListsChanges) :
    difference.statistics.changedVariables.reportable =
      difference.changedVariables.countP VariableDifference.isReportable :=
  reportable_of_changed (fun _ => rfl) lists.globals

/-- Any entry satisfies a test exactly if some are counted. -/
theorem any_eq_countP {ε : Type} (test : ε → Bool) (entries : List ε) :
    entries.any test = decide (0 < entries.countP test) := by
  rw [Bool.eq_iff_iff, List.any_eq_true, decide_eq_true_iff, List.countP_pos_iff]

/-- Something unsuppressed is listed exactly if the count leaves something to report. -/
theorem any_not_eq_reportable {ε : Type} (isSuppressed : ε → Bool) (entries : List ε) :
    (entries.any fun entry => !isSuppressed entry) =
      decide (0 < (ChangeCount.of isSuppressed entries).reportable) := by
  rw [any_eq_countP, ChangeCount.reportable_of]

/-! ## Status -/

/-- A difference is incompatible exactly if the counts leave something removed to report. -/
theorem isIncompatible_eq_true_iff (difference : Difference) :
    difference.isIncompatible = true ↔
      0 < difference.statistics.removedFunctions.reportable ∨
        0 < difference.statistics.removedVariables.reportable ∨
        0 < difference.statistics.removedFunctionSymbols.reportable ∨
        0 < difference.statistics.removedVariableSymbols.reportable := by
  simp only [isIncompatible, any_not_eq_reportable, Bool.or_eq_true, decide_eq_true_iff, or_assoc]
  rfl

/-- If what is listed as changed has changes, nothing is left to report exactly if the binaries did not
change and no count leaves anything. -/
theorem isReportable_eq_false_iff (lists : difference.ListsChanges) :
    difference.isReportable = false ↔
      difference.hasBinaryChanges = false ∧
        ∀ count ∈ difference.statistics.counts, count.reportable = 0 := by
  have functions : difference.changedFunctions.any FunctionDifference.isReportable = false ↔
      difference.statistics.changedFunctions.reportable = 0 := by
    rw [reportable_changedFunctions lists, any_eq_countP, decide_eq_false_iff_not, Nat.not_lt,
      Nat.le_zero]
  have globals : difference.changedVariables.any VariableDifference.isReportable = false ↔
      difference.statistics.changedVariables.reportable = 0 := by
    rw [reportable_changedVariables lists, any_eq_countP, decide_eq_false_iff_not, Nat.not_lt,
      Nat.le_zero]
  simp only [isReportable, isIncompatible, Bool.or_eq_false_iff, functions, globals]
  simp only [any_not_eq_reportable, statistics, Statistics.counts, List.forall_mem_cons,
    List.not_mem_nil, false_imp_iff, implies_true, and_true,
    decide_eq_false_iff_not, Nat.not_lt, Nat.le_zero]
  -- Both sides ask the same of every category, in different orders.
  simp only [and_assoc, and_left_comm, and_comm]

/-- Nothing changed about the binaries exactly if they have the same SONAME, architecture and libraries. -/
theorem hasBinaryChanges_eq_false_iff (difference : Difference) :
    difference.hasBinaryChanges = false ↔
      difference.soname = none ∧ difference.architecture = none ∧ difference.removedNeeded = [] ∧
        difference.addedNeeded = [] := by
  simp only [hasBinaryChanges, Bool.or_eq_false_iff, Option.isSome_eq_false_iff,
    Option.isNone_iff_eq_none, Bool.not_eq_false', List.isEmpty_iff, and_assoc]

/-! ## Sections -/

/-- A category that a report may have a section for: the words of its heading, and its count. -/
structure SectionRow where
  noun : String
  suffix : String := ""
  count : ChangeCount

/-- The heading of a section, which tells what the count leaves to report. -/
def SectionRow.heading (row : SectionRow) : String :=
  Report.counted row.count.reportable row.noun ++ row.suffix ++ ":"

/-- The categories that a report may have sections for. -/
def sectionRows (options : Options) (statistics : Statistics) : List SectionRow :=
  let symbols (noun : String) (count : ChangeCount) : SectionRow :=
    ⟨noun, " not referenced by debug info", count⟩
  [⟨"Removed function", "", statistics.removedFunctions⟩,
    ⟨"Added function", "", statistics.addedFunctions⟩,
    ⟨"function with some sub-type change", "", statistics.changedFunctions⟩,
    ⟨"Removed variable", "", statistics.removedVariables⟩,
    ⟨"Added variable", "", statistics.addedVariables⟩,
    ⟨"Changed variable", "", statistics.changedVariables⟩] ++
  if options.showUnreferenced then
    [symbols "Removed function symbol" statistics.removedFunctionSymbols,
      symbols "Added function symbol" statistics.addedFunctionSymbols,
      symbols "Removed variable symbol" statistics.removedVariableSymbols,
      symbols "Added variable symbol" statistics.addedVariableSymbols]
  else []

variable {options : Options}

/-- Where suppressed changes are not shown, a category on one side only has the entries that are counted. -/
theorem length_entityCategory (hides : options.showSuppressed = false) (mark : Report.Mark)
    (noun what : String) (changes : List EntityChange) :
    (Report.entityCategory options mark noun what changes).entries.length =
      (ChangeCount.of EntityChange.isSuppressed changes).reportable := by
  rw [ChangeCount.reportable_of, Report.entityCategory, Report.shownEntities, hides, List.length_map,
    ← List.countP_eq_length_filter]
  rfl

theorem length_symbolCategory (hides : options.showSuppressed = false) (mark : Report.Mark)
    (noun : String) (changes : List SymbolChange) :
    (Report.symbolCategory options mark noun changes).entries.length =
      (ChangeCount.of SymbolChange.isSuppressed changes).reportable := by
  rw [ChangeCount.reportable_of, Report.symbolCategory, hides]
  rw [List.length_map, ← List.countP_eq_length_filter]
  rfl

theorem length_functionCategory (hides : options.showSuppressed = false)
    (lists : difference.ListsChanges) :
    (Report.functionCategory options difference.changedFunctions).entries.length =
      difference.statistics.changedFunctions.reportable := by
  rw [reportable_changedFunctions lists, Report.functionCategory, hides]
  simp only [List.length_map, ← List.countP_eq_length_filter, Bool.false_and, Bool.or_false]

theorem length_variableCategory (hides : options.showSuppressed = false)
    (lists : difference.ListsChanges) :
    (Report.variableCategory options difference.changedVariables).entries.length =
      difference.statistics.changedVariables.reportable := by
  rw [reportable_changedVariables lists, Report.variableCategory, hides]
  simp only [List.length_map, ← List.countP_eq_length_filter, Bool.false_and, Bool.or_false]

/-- The categories of a report have as many entries as the counts leave to report. -/
theorem map_categories (hides : options.showSuppressed = false) (lists : difference.ListsChanges) :
    (Report.categories options difference).map
        (fun category => (category.noun, category.suffix, category.entries.length)) =
      (sectionRows options difference.statistics).map
        fun row => (row.noun, row.suffix, row.count.reportable) := by
  rw [Report.categories, sectionRows, List.map_append, List.map_append]
  simp only [List.map_cons, List.map_nil, length_entityCategory hides, length_functionCategory hides lists,
    length_variableCategory hides lists]
  refine congrArg₂ (· ++ ·) rfl ?_
  split
  · simp only [List.map_cons, List.map_nil, length_symbolCategory hides]
    rfl
  · rfl

/-- The sections that are found in a report are headed with what the counts leave to report, and list it.

Proof: a section is headed with the number of its entries, which is what its count leaves to report, and
a category has entries exactly if that is not zero. -/
theorem listed_sections (hides : options.showSuppressed = false) (lists : difference.ListsChanges) :
    (Report.sections (Report.lines options difference)).map
        (fun found => (found.1, Report.listed found.2)) =
      ((sectionRows options difference.statistics).filter
        fun row => decide (0 < row.count.reportable)).map
          fun row => (row.heading, row.count.reportable) := by
  let told (row : String × String × Nat) : String × Nat :=
    (Report.counted row.2.2 row.1 ++ row.2.1 ++ ":", row.2.2)
  have ofReport : (Report.sections (Report.lines options difference)).map
        (fun found => (found.1, Report.listed found.2)) =
      (((Report.categories options difference).map
        (fun category => (category.noun, category.suffix, category.entries.length))).filter
          fun row => decide (0 < row.2.2)).map told := by
    rw [Report.sections_lines, List.map_map, List.filter_map, List.map_map]
    have shown : (fun category : Report.Category => !category.entries.isEmpty) =
        (fun row : String × String × Nat => decide (0 < row.2.2)) ∘
          fun category : Report.Category =>
            (category.noun, category.suffix, category.entries.length) := by
      funext category
      cases entries : category.entries <;> simp [entries]
    rw [shown]
    refine List.map_congr_left fun category member => ?_
    have areEntries := Report.isEntry_of_mem_categories (List.mem_filter.mp member).1
    exact congrArg (category.heading, ·) (Report.listed_body areEntries)
  rw [ofReport, map_categories hides lists, List.filter_map, List.map_map]
  rfl

/-! ## The whole -/

/-- Report, counts and status say the same about a difference. -/
structure Agrees (options : Options) (difference : Difference) : Prop where
  /-- The sections of the report are those of the categories whose counts leave something to report. Each is
  headed with what its count leaves, and lists as many entries. -/
  sections : (Report.sections (Report.lines options difference)).map
      (fun found => (found.1, Report.listed found.2)) =
    ((sectionRows options difference.statistics).filter
      fun row => decide (0 < row.count.reportable)).map
        fun row => (row.heading, row.count.reportable)
  /-- The numbers of the summary in the report are what the counts of the categories leave to report. -/
  summary : Report.summary (Report.lines options difference) =
    (Report.summaryCounts options difference.statistics).map fun row =>
      (row.1, row.2.map ChangeCount.reportable)
  /-- What is written is the lines of the report. -/
  written : Report.text options difference =
    String.join ((Report.lines options difference).map fun line => line ++ "\n")
  /-- The status tells no change exactly if the binaries did not change and all counts leave nothing. -/
  isChanged : difference.status.isChanged = false ↔
    (difference.soname = none ∧ difference.architecture = none ∧ difference.removedNeeded = [] ∧
        difference.addedNeeded = []) ∧
      ∀ count ∈ difference.statistics.counts, count.reportable = 0
  /-- The status tells an incompatible change exactly if something removed is left to report. -/
  isIncompatible : difference.status.isIncompatible = true ↔
    0 < difference.statistics.removedFunctions.reportable ∨
      0 < difference.statistics.removedVariables.reportable ∨
      0 < difference.statistics.removedFunctionSymbols.reportable ∨
      0 < difference.statistics.removedVariableSymbols.reportable

/-- For the difference between two corpora, report, counts and status agree wherever suppressed changes are
not shown.

Proof: what is listed as changed has changes, so an entry is filtered out exactly if it is not left to
report, and then all three count the same entries. -/
theorem agrees_ofCorpora (first second : Corpus) (suppressions : List Suppression) (options : Options) :
    (ofCorpora first second suppressions options).Agrees { options with showSuppressed := false } := by
  have lists := listsChanges_ofCorpora first second suppressions options
  constructor
  case sections => exact listed_sections rfl lists
  case summary => exact Report.summary_lines _ _
  case written => rfl
  case isChanged =>
    rw [← hasBinaryChanges_eq_false_iff]
    exact isReportable_eq_false_iff lists
  case isIncompatible => exact isIncompatible_eq_true_iff _

end Difference

end Abiscope
