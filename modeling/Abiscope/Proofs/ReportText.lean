import Abiscope.Report
import Mathlib.Data.List.Basic

/-!
# What can be read off a report

Whoever reads a report counts the lines of a section that begin with a mark, and takes the numbers of a line
of the summary from behind its colon and its commas. The first gives the entries that the section was made
of: a mark opens every entry, and all other lines of an entry lie deeper. The second gives the counts
that the summary was made of, since no colon or comma stands anywhere else in such a line, and what was
filtered out is told in brackets behind a number.
-/

namespace Abiscope.Report

/-! ## Entries -/

/-- A line opens an entry if it begins with a mark. -/
def opensEntry (line : String) : Bool :=
  [Mark.deleted, .added, .changed].any fun mark => mark.text.toList.isPrefixOf line.toList

/-- The number of entries listed in some lines. -/
def listed (lines : List String) : Nat := lines.countP opensEntry

/-- A mark opens an entry. -/
theorem opensEntry_mark (mark : Mark) (rest : String) : opensEntry (mark.text ++ rest) = true := by
  rw [opensEntry, List.any_eq_true]
  refine ⟨mark, by cases mark <;> decide, ?_⟩
  rw [List.isPrefixOf_iff_prefix, String.toList_append]
  exact List.prefix_append _ _

/-- Whether a line lies four steps in or deeper. -/
def liesDeep (line : String) : Bool := (List.replicate 4 ' ').isPrefixOf line.toList

/-- A line that is indented by four steps or more lies so deep. -/
theorem liesDeep_indented {indent : Nat} (deep : 4 ≤ indent) (line : String) :
    liesDeep (indented indent line) = true := by
  obtain ⟨further, rfl⟩ := Nat.exists_eq_add_of_le deep
  rw [liesDeep, List.isPrefixOf_iff_prefix, indented, String.toList_append, String.toList_ofList,
    List.replicate_add, List.append_assoc]
  exact List.prefix_append _ _

/-- A mark has a bracket where a line four steps in still has a space. -/
theorem opensEntry_of_liesDeep {line : String} (deep : liesDeep line = true) :
    opensEntry line = false := by
  obtain ⟨rest, spaces⟩ := List.isPrefixOf_iff_prefix.mp deep
  rw [opensEntry, ← spaces]
  rfl

/-- A number is written in digits. -/
theorem isDigit_of_mem_toString {number : Nat} {char : Char}
    (member : char ∈ (toString number).toList) : char.isDigit = true := by
  rw [Nat.toString_eq_repr, Nat.toList_repr] at member
  exact Nat.isDigit_of_mem_toDigits (by decide) (by decide) member

/-- A number begins with a digit. -/
theorem exists_digit (number : Nat) :
    ∃ digit digits, (toString number).toList = digit :: digits ∧ digit.isDigit = true := by
  have written : (toString number).toList ≠ [] := by
    rw [Nat.toString_eq_repr, Nat.toList_repr]
    exact Nat.toDigits_ne_nil
  obtain ⟨digit, digits, begins⟩ := List.exists_cons_of_ne_nil written
  have member : digit ∈ (toString number).toList := begins ▸ List.mem_cons_self
  exact ⟨digit, digits, begins, isDigit_of_mem_toString member⟩

/-- Where no line opens an entry, no entry is listed. -/
theorem listed_eq_zero {lines : List String} (details : ∀ line ∈ lines, opensEntry line = false) :
    listed lines = 0 := by
  rw [listed, List.countP_eq_zero]
  intro line member
  rw [details line member]
  exact Bool.false_ne_true

/-- Indented lines lie deep. -/
theorem liesDeep_map_indented {α : Type} {indent : Nat} (deep : 4 ≤ indent) (text : α → String)
    (items : List α) :
    ∀ line ∈ items.map (fun item => indented indent (text item)), liesDeep line = true := by
  intro line member
  obtain ⟨item, _, rfl⟩ := List.mem_map.mp member
  exact liesDeep_indented deep _

/-- The lines about the types of a finding lie deep. -/
theorem liesDeep_findingLines {indent : Nat} (deep : 4 ≤ indent) (finding : Finding) :
    ∀ line ∈ findingLines indent finding, liesDeep line = true := by
  intro line member
  rw [findingLines, List.mem_append] at member
  rcases member with renamed | change
  · split at renamed
    · rw [List.mem_singleton.mp renamed]
      exact liesDeep_indented deep _
    · contradiction
  · exact liesDeep_map_indented deep TypeChange.text _ line change

/-- The heading of a type change lies deep. -/
theorem liesDeep_headingOf {options : Options} {indent : Nat} (deep : 4 ≤ indent) {heading line : String}
    {difference : TypeDifference}
    (shown : headingOf options indent heading difference = .alone line ∨
      headingOf options indent heading difference = .opening line) : liesDeep line = true := by
  rw [headingOf] at shown
  split at shown
  · split at shown
    · simp only [Heading.alone.injEq, reduceCtorEq, or_false] at shown
      rw [← shown]
      exact liesDeep_indented deep _
    · simp only [reduceCtorEq, or_self] at shown
  · split at shown
    · simp only [Heading.opening.injEq, reduceCtorEq, false_or] at shown
      rw [← shown]
      exact liesDeep_indented deep _
    · simp only [reduceCtorEq, or_self] at shown

/-- The lines of a type change lie deep if those of its parts do. -/
theorem liesDeep_typeLines_of_inside {options : Options} {indent : Nat} (deep : 4 ≤ indent)
    {heading : String} {difference : TypeDifference}
    (parts : ∀ line ∈ findingsLines options (indent + 2) difference.inside, liesDeep line = true) :
    ∀ line ∈ typeLines options indent heading difference, liesDeep line = true := by
  intro line member
  rw [typeLines] at member
  split at member
  case h_1 hidden => contradiction
  case h_2 shown =>
    rw [List.mem_singleton.mp member]
    exact liesDeep_headingOf deep (.inl shown)
  case h_3 shown =>
    rw [List.mem_cons, List.mem_append] at member
    rcases member with rfl | own | part
    · exact liesDeep_headingOf deep (.inr shown)
    · exact liesDeep_findingLines (Nat.le_add_right_of_le deep) _ line own
    · exact parts line part

/-- Each finding is shown as a type change of its own. -/
theorem findingsLines_cons (options : Options) (indent : Nat) (role : String) (finding : Finding)
    (inside beside : Findings) :
    findingsLines options indent (.cons role finding inside beside) =
      typeLines options indent (partHeading options role finding) ⟨finding, inside⟩ ++
        findingsLines options indent beside := by
  rw [findingsLines]
  rfl

/-- The lines of findings lie deep. -/
theorem liesDeep_findingsLines {options : Options} {indent : Nat} (deep : 4 ≤ indent)
    (findings : Findings) : ∀ line ∈ findingsLines options indent findings, liesDeep line = true := by
  induction findings generalizing indent with
  | empty => exact List.forall_mem_nil _
  | cons role finding inside beside insideHypothesis besideHypothesis =>
    intro line member
    rw [findingsLines_cons, List.mem_append] at member
    rcases member with own | other
    · exact liesDeep_typeLines_of_inside deep (insideHypothesis (Nat.le_add_right_of_le deep)) line own
    · exact besideHypothesis deep line other

/-- The lines of a type change lie deep. -/
theorem liesDeep_typeLines {options : Options} {indent : Nat} (deep : 4 ≤ indent) {heading : String}
    {difference : TypeDifference} :
    ∀ line ∈ typeLines options indent heading difference, liesDeep line = true :=
  liesDeep_typeLines_of_inside deep
    (liesDeep_findingsLines (Nat.le_add_right_of_le deep) difference.inside)

/-- The lines of a type change that may be missing lie deep. -/
theorem liesDeep_optionalTypeLines {options : Options} {heading : String}
    {difference : Option TypeDifference} :
    ∀ line ∈ optionalTypeLines options heading difference, liesDeep line = true := by
  cases difference with
  | none => exact List.forall_mem_nil _
  | some difference => exact liesDeep_typeLines (Nat.le_refl 4)

/-- The lines about a parameter lie deep. -/
theorem liesDeep_parameterLines {options : Options} {parameter : ParameterDifference} :
    ∀ line ∈ parameterLines options parameter, liesDeep line = true := by
  have single (text : String) : ∀ line ∈ [indented 4 text], liesDeep line = true := by
    intro line member
    rw [List.mem_singleton.mp member]
    exact liesDeep_indented (Nat.le_refl 4) text
  rw [parameterLines]
  split
  · exact List.forall_mem_nil _
  · dsimp only
    split
    · split
      · exact single _
      · exact liesDeep_typeLines (Nat.le_refl 4)
    · exact single _
    · exact single _

/-- The lines of an entry: the first one opens it, the others lie deep. -/
structure IsEntry (entry : List String) : Prop where
  opens : entry.head?.any opensEntry = true
  deep : ∀ line ∈ entry.tail, liesDeep line = true

/-- A mark with lines below it that lie deep is an entry. -/
theorem isEntry_mark (mark : Mark) (rest : String) {details : List String}
    (deep : ∀ line ∈ details, liesDeep line = true) : IsEntry ((mark.text ++ rest) :: details) :=
  ⟨opensEntry_mark mark rest, deep⟩

/-- An entry is listed once. -/
theorem IsEntry.listed_eq {entry : List String} (isEntry : IsEntry entry) : listed entry = 1 := by
  obtain ⟨opens, deep⟩ := isEntry
  cases entry with
  | nil => contradiction
  | cons first details =>
    rw [List.head?_cons, Option.any_some] at opens
    have none : details.countP opensEntry = 0 :=
      listed_eq_zero fun line member => opensEntry_of_liesDeep (deep line member)
    rw [listed, List.countP_cons_of_pos opens, none]

theorem isEntry_entityEntry (options : Options) (mark : Mark) (what : String) (change : EntityChange) :
    IsEntry (entityEntry options mark what change) := by
  simp only [entityEntry, String.append_assoc]
  exact isEntry_mark mark _ (List.forall_mem_nil _)

theorem isEntry_symbolEntry (mark : Mark) (change : SymbolChange) :
    IsEntry (symbolEntry mark change) := by
  simp only [symbolEntry, String.append_assoc]
  exact isEntry_mark mark _ (List.forall_mem_nil _)

/-- The lines below that of a function lie deep. -/
theorem liesDeep_functionEntry {options : Options} {difference : FunctionDifference} :
    ∀ line ∈ (functionEntry options difference).tail, liesDeep line = true := by
  intro line member
  rw [functionEntry, List.tail_cons] at member
  split at member
  · contradiction
  · rw [List.mem_append, List.mem_append] at member
    rcases member with (symbol | result) | parameter
    · exact liesDeep_map_indented (Nat.le_refl 4) Symbol.Change.text _ line symbol
    · exact liesDeep_optionalTypeLines line result
    · obtain ⟨parameter, _, inside⟩ := List.mem_flatMap.mp parameter
      exact liesDeep_parameterLines line inside

/-- The lines below that of a variable lie deep. -/
theorem liesDeep_variableEntry {options : Options} {difference : VariableDifference} :
    ∀ line ∈ (variableEntry options difference).tail, liesDeep line = true := by
  intro line member
  rw [variableEntry, List.tail_cons] at member
  split at member
  · contradiction
  · rw [List.mem_append] at member
    rcases member with symbol | type
    · exact liesDeep_map_indented (Nat.le_refl 4) Symbol.Change.text _ line symbol
    · exact liesDeep_optionalTypeLines line type

theorem isEntry_functionEntry (options : Options) (difference : FunctionDifference) :
    IsEntry (functionEntry options difference) := by
  have deep := @liesDeep_functionEntry options difference
  simp only [functionEntry, String.append_assoc] at deep ⊢
  exact isEntry_mark _ _ deep

theorem isEntry_variableEntry (options : Options) (difference : VariableDifference) :
    IsEntry (variableEntry options difference) := by
  have deep := @liesDeep_variableEntry options difference
  simp only [variableEntry, String.append_assoc] at deep ⊢
  exact isEntry_mark _ _ deep

/-- The categories of a report have entries. -/
theorem isEntry_of_mem_categories {options : Options} {difference : Difference} {category : Category}
    (member : category ∈ categories options difference) : ∀ entry ∈ category.entries, IsEntry entry := by
  have each {α : Type} {make : α → List String} (single : ∀ item, IsEntry (make item))
      (items : List α) : ∀ entry ∈ items.map make, IsEntry entry := by
    intro entry made
    obtain ⟨item, _, rfl⟩ := List.mem_map.mp made
    exact single item
  have entities (mark : Mark) (noun what : String) (changes : List EntityChange) :
      ∀ entry ∈ (entityCategory options mark noun what changes).entries, IsEntry entry :=
    each (isEntry_entityEntry options mark what) _
  have symbols (mark : Mark) (noun : String) (changes : List SymbolChange) :
      ∀ entry ∈ (symbolCategory options mark noun changes).entries, IsEntry entry :=
    each (isEntry_symbolEntry mark) _
  rw [categories, List.mem_append] at member
  rcases member with declared | unreferenced
  · simp only [List.mem_cons, List.not_mem_nil, or_false] at declared
    rcases declared with rfl | rfl | rfl | rfl | rfl | rfl
    · exact entities _ _ _ _
    · exact entities _ _ _ _
    · exact each (isEntry_functionEntry options) _
    · exact entities _ _ _ _
    · exact entities _ _ _ _
    · exact each (isEntry_variableEntry options) _
  · split at unreferenced
    · simp only [List.mem_cons, List.not_mem_nil, or_false] at unreferenced
      rcases unreferenced with rfl | rfl | rfl | rfl <;> exact symbols _ _ _
    · contradiction

/-- Entries one behind another are listed. -/
theorem listed_flatten {entries : List (List String)} (areEntries : ∀ entry ∈ entries, IsEntry entry) :
    listed entries.flatten = entries.length := by
  have ones : entries.map (List.countP opensEntry) = entries.map fun _ => 1 :=
    List.map_congr_left fun entry member => (areEntries entry member).listed_eq
  rw [listed, List.countP_flatten, ones, List.map_const', List.sum_replicate_nat, Nat.mul_one]

/-! ## The summary -/

/-- The number that a text begins with. -/
def leading (text : List Char) : Nat := Nat.ofDigitChars 10 (text.takeWhile Char.isDigit) 0

/-- The numbers in a line of the summary. One stands behind the colon and behind every comma, each after a
space. -/
def figures : List Char → List Nat
  | [] => []
  | char :: rest =>
    if char = ':' ∨ char = ',' then leading (rest.drop 1) :: figures rest else figures rest

/-- A text without colons and commas. -/
def IsPlain (text : String) : Prop := ∀ char ∈ text.toList, ¬(char = ':' ∨ char = ',')

-- The instance is named, since deciding a statement about all characters goes through every one there is.
instance (text : String) : Decidable (IsPlain text) :=
  List.decidableBAll (fun char => ¬(char = ':' ∨ char = ',')) text.toList

theorem IsPlain.append {left right : String} (leftPlain : IsPlain left) (rightPlain : IsPlain right) :
    IsPlain (left ++ right) := by
  intro char member
  rw [String.toList_append, List.mem_append] at member
  rcases member with inLeft | inRight
  · exact leftPlain char inLeft
  · exact rightPlain char inRight

/-- The digits of a number are plain. -/
theorem isPlain_toString (number : Nat) : IsPlain (toString number) := by
  intro char member
  have isDigit := isDigit_of_mem_toString member
  rintro (rfl | rfl) <;> contradiction

theorem isPlain_filteredSuffix (count : ChangeCount) : IsPlain (filteredSuffix count) := by
  rw [filteredSuffix]
  split
  · exact (IsPlain.append (by decide) (isPlain_toString _)).append (by decide)
  · decide

/-- There is no number to read in a plain text. -/
theorem figures_append {text : String} (plain : IsPlain text) (rest : List Char) :
    figures (text.toList ++ rest) = figures rest := by
  have skips (chars : List Char) (plain : ∀ char ∈ chars, ¬(char = ':' ∨ char = ',')) :
      figures (chars ++ rest) = figures rest := by
    induction chars with
    | nil => rfl
    | cons char chars inductionHypothesis =>
      obtain ⟨first, others⟩ := List.forall_mem_cons.mp plain
      rw [List.cons_append, figures, if_neg first]
      exact inductionHypothesis others
  exact skips text.toList plain

/-- The number that is written in front of a space is read back. -/
theorem leading_toString (number : Nat) (rest : List Char) :
    leading ((toString number).toList ++ ' ' :: rest) = number := by
  have digits : ∀ char ∈ (toString number).toList, char.isDigit = true :=
    fun _ => isDigit_of_mem_toString
  rw [leading, List.takeWhile_append_of_pos digits, List.takeWhile_cons_of_neg (by decide),
    List.append_nil, Nat.toString_eq_repr, Nat.toList_repr, Nat.ofDigitChars_ten_toDigits]

/-- Behind a colon or a comma the number is read that stands there, and then what follows its words. -/
theorem figures_clause {separator : String} (separates : separator = ": " ∨ separator = ", ")
    (number : Nat) {words : String} (plain : IsPlain words) (rest : String) :
    figures (separator ++ (toString number ++ (" " ++ (words ++ rest)))).toList =
      number :: figures rest.toList := by
  have reads (mark : Char) (marks : mark = ':' ∨ mark = ',') :
      figures (mark :: ' ' :: ((toString number).toList ++ ' ' :: (words.toList ++ rest.toList))) =
        number :: figures rest.toList := by
    have words : figures (' ' :: (words.toList ++ rest.toList)) = figures rest.toList := by
      rw [figures, if_neg (by decide)]
      exact figures_append plain rest.toList
    rw [figures, if_pos marks, List.drop_one, List.tail_cons, leading_toString, figures,
      if_neg (by decide), figures_append (isPlain_toString number), words]
  simp only [String.toList_append]
  rcases separates with rfl | rfl
  · exact reads ':' (.inl rfl)
  · exact reads ',' (.inr rfl)

/-- A count of the summary is read as what is left to report. -/
theorem figures_summaryCount {separator : String} (separates : separator = ": " ∨ separator = ", ")
    (count : ChangeCount) {what : String} (plain : IsPlain what) (rest : String) :
    figures (separator ++ (summaryCount count what ++ rest)).toList =
      count.reportable :: figures rest.toList := by
  have written : summaryCount count what ++ rest =
      toString count.reportable ++ (" " ++ ((what ++ filteredSuffix count) ++ rest)) := by
    simp only [summaryCount, String.append_assoc]
    rfl
  rw [written]
  exact figures_clause separates _ (plain.append (isPlain_filteredSuffix count)) rest

/-- The count at the end of a line is read as what is left to report. -/
theorem figures_addedCount {separator : String} (separates : separator = ": " ∨ separator = ", ")
    (count : ChangeCount) {noun : String} (plain : IsPlain noun) (rest : String) :
    figures (separator ++ (addedCount count noun ++ rest)).toList =
      count.reportable :: figures rest.toList := by
  have plural : IsPlain (if count.reportable > 1 then "s" else "") := by
    split <;> decide
  have written : addedCount count noun ++ rest = toString count.reportable ++
      (" " ++ ((noun ++ (if count.reportable > 1 then "s" else "") ++ filteredSuffix count) ++ rest)) := by
    simp only [addedCount, counted, String.append_assoc]
  rw [written]
  exact figures_clause separates _ ((plain.append plural).append (isPlain_filteredSuffix count)) rest

/-- A heading in a line of the summary is a plain title with a colon. -/
def IsHeading (heading : String) : Prop := ∃ title, IsPlain title ∧ heading = title ++ ": "

/-- Only what follows the title of a line is read. -/
theorem figures_heading {heading : String} (isHeading : IsHeading heading) :
    ∃ title : String, heading = title ++ ": " ∧
      ∀ rest : String, figures (title ++ (": " ++ rest)).toList = figures (": " ++ rest).toList := by
  obtain ⟨title, plain, rfl⟩ := isHeading
  refine ⟨title, rfl, fun rest => ?_⟩
  rw [String.toList_append, figures_append plain]

/-- A line about what was removed, changed and added. -/
theorem figures_changes {heading noun : String} (isHeading : IsHeading heading) (plain : IsPlain noun)
    (removed changed added : ChangeCount) :
    figures (heading ++ (summaryCount removed "Removed" ++ ", " ++ summaryCount changed "Changed" ++
        ", " ++ addedCount added noun)).toList =
      [removed.reportable, changed.reportable, added.reportable] := by
  obtain ⟨title, rfl, reads⟩ := figures_heading isHeading
  rw [← String.append_empty (s := addedCount added noun)]
  simp only [String.append_assoc]
  rw [reads, figures_summaryCount (.inl rfl) removed (by decide),
    figures_summaryCount (.inr rfl) changed (by decide), figures_addedCount (.inr rfl) added plain]
  rfl

/-- A line about symbols that were removed and added. -/
theorem figures_symbols {heading noun : String} (isHeading : IsHeading heading) (plain : IsPlain noun)
    (removed added : ChangeCount) :
    figures (heading ++ (summaryCount removed "Removed" ++ ", " ++ addedCount added noun ++
        " not referenced by debug info")).toList =
      [removed.reportable, added.reportable] := by
  obtain ⟨title, rfl, reads⟩ := figures_heading isHeading
  simp only [String.append_assoc]
  rw [reads, figures_summaryCount (.inl rfl) removed (by decide),
    figures_addedCount (.inr rfl) added plain]
  rfl

-- What was filtered out is not read.
example : figures
    "Variables changes summary: 1 Removed (2 filtered out), 0 Changed, 13 Added variables".toList =
      [1, 0, 13] := by
  decide

end Abiscope.Report
