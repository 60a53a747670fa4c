import Abiscope.Proofs.ReportText

/-!
# Reports cut into sections

The lines of a report are cut where they begin in a certain way. The heading of a section begins with a
number, and no other line of a report does, so each section is found again with the lines below its heading.
A line of the summary begins with what it is about, and no other line begins so. What stands inside a section
begins with a blank, and what is told of the binaries themselves with other letters.
-/

namespace Abiscope.Report

variable {options : Options} {difference : Difference} {line : String} {letter : Char}
  {inner below : List String}

/-! ## What lines begin with -/

/-- The letter that a line begins with. -/
def initial? (line : String) : Option Char := line.toList.head?

/-- More text leaves the first letter as it is. -/
theorem initial?_append {text : String} (begins : initial? text = some letter)
    (more : String) : initial? (text ++ more) = some letter := by
  rw [initial?, String.toList_append, List.head?_append]
  exact congrArg (Option.or · more.toList.head?) begins

/-- A line that opens an entry begins with a blank. -/
theorem initial?_of_opensEntry (opens : opensEntry line = true) : initial? line = some ' ' := by
  obtain ⟨mark, _, begins⟩ := List.any_eq_true.mp opens
  obtain ⟨rest, written⟩ := List.isPrefixOf_iff_prefix.mp begins
  rw [initial?, ← written]
  cases mark <;> rfl

/-- A line that lies deep begins with a blank. -/
theorem initial?_of_liesDeep (deep : liesDeep line = true) : initial? line = some ' ' := by
  obtain ⟨rest, written⟩ := List.isPrefixOf_iff_prefix.mp deep
  rw [initial?, ← written]
  rfl

/-- All lines of an entry begin with a blank. -/
theorem IsEntry.initial? {entry : List String} (isEntry : IsEntry entry) (member : line ∈ entry) :
    initial? line = some ' ' := by
  obtain ⟨opens, deep⟩ := isEntry
  cases entry with
  | nil => contradiction
  | cons first details =>
    rcases List.mem_cons.mp member with rfl | below
    · exact initial?_of_opensEntry opens
    · exact initial?_of_liesDeep (deep line below)

/-- What is told of the binaries themselves begins with other letters than headings and the summary. -/
theorem initial?_binaryLines (member : line ∈ binaryLines difference) :
    ∃ letter ∈ ['E', 'a', 'n'], initial? line = some letter := by
  simp only [binaryLines, List.mem_append, List.mem_map] at member
  rcases member with ((⟨names, _, rfl⟩ | ⟨architectures, _, rfl⟩) | ⟨name, _, rfl⟩) | ⟨name, _, rfl⟩
  · exact ⟨'E', by decide, initial?_append (initial?_append (initial?_append (initial?_append rfl _) _) _) _⟩
  · exact ⟨'a', by decide, initial?_append (initial?_append (initial?_append (initial?_append rfl _) _) _) _⟩
  · exact ⟨'n', by decide, initial?_append (initial?_append rfl _) _⟩
  · exact ⟨'n', by decide, initial?_append (initial?_append rfl _) _⟩

/-- The lines of the summary begin with the name of what they are about. -/
theorem initial?_summaryLines {statistics : Difference.Statistics}
    (member : line ∈ summaryLines options statistics) :
    ∃ letter ∈ ['F', 'V'], initial? line = some letter := by
  rw [summaryLines, List.mem_append] at member
  rcases member with declared | unreferenced
  · simp only [List.mem_cons, List.not_mem_nil, or_false] at declared
    rcases declared with rfl | rfl
    · exact ⟨'F', by decide, initial?_append rfl _⟩
    · exact ⟨'V', by decide, initial?_append rfl _⟩
  · split at unreferenced
    · simp only [List.mem_cons, List.not_mem_nil, or_false] at unreferenced
      rcases unreferenced with rfl | rfl
      · exact ⟨'F', by decide, initial?_append rfl _⟩
      · exact ⟨'V', by decide, initial?_append rfl _⟩
    · contradiction

/-! ## Sections -/

/-- A line is the heading of a section if it begins with a digit. -/
def opensSection (line : String) : Bool := (initial? line).any Char.isDigit

/-- A line that begins with another letter is no heading. -/
theorem opensSection_of_initial? (begins : initial? line = some letter) (other : letter.isDigit = false) :
    opensSection line = false := by
  rw [opensSection, begins]
  exact other

/-- The sections of a report: every heading with the lines below it, up to the next heading. -/
def sections : List String → List (String × List String)
  | [] => []
  | line :: rest =>
    if opensSection line then (line, rest.takeWhile fun line => !opensSection line) :: sections rest
    else sections rest

/-- In front of the first heading there are no sections. -/
theorem sections_append (closed : ∀ line ∈ inner, opensSection line = false) (below : List String) :
    sections (inner ++ below) = sections below := by
  induction inner with
  | nil => rfl
  | cons line rest inductionHypothesis =>
    obtain ⟨first, others⟩ := List.forall_mem_cons.mp closed
    rw [List.cons_append, sections, first, if_neg Bool.false_ne_true]
    exact inductionHypothesis others

/-- Some lines end a section if they begin with the next heading, or if there are none. -/
def EndsSection (below : List String) : Prop := below.head?.all opensSection = true

/-- A section is cut off that has a heading, lines below it without headings, and an end. -/
theorem sections_cons {heading : String} (opens : opensSection heading = true)
    (closed : ∀ line ∈ inner, opensSection line = false) (ends : EndsSection below) :
    sections (heading :: (inner ++ below)) = (heading, inner) :: sections below := by
  have passes : ∀ line ∈ inner, (!opensSection line) = true :=
    fun line member => congrArg Bool.not (closed line member)
  have stops : below.takeWhile (fun line => !opensSection line) = [] := by
    cases below with
    | nil => rfl
    | cons next further =>
      rw [EndsSection, List.head?_cons, Option.all_some] at ends
      exact List.takeWhile_cons_of_neg (by rw [ends]; exact Bool.false_ne_true)
  rw [sections, if_pos opens, sections_append closed, List.takeWhile_append_of_pos passes, stops,
    List.append_nil]

/-- The heading of the section of a category. -/
def Category.heading (category : Category) : String :=
  counted category.entries.length category.noun ++ category.suffix ++ ":"

/-- The lines below the heading of the section of a category. -/
def Category.body (category : Category) : List String := "" :: (category.entries.flatten ++ [""])

/-- A category with entries has a section. -/
theorem Category.lines_eq (category : Category) :
    category.lines = if category.entries.isEmpty then [] else category.heading :: category.body :=
  rfl

/-- The heading of a section begins with a number. -/
theorem exists_initial?_heading (category : Category) :
    ∃ digit, initial? category.heading = some digit ∧ digit.isDigit = true := by
  obtain ⟨digit, digits, written, isDigit⟩ := exists_digit category.entries.length
  have number : initial? (toString category.entries.length) = some digit := by
    rw [initial?, written]
    rfl
  have counts : initial? (counted category.entries.length category.noun) = some digit :=
    initial?_append (initial?_append (initial?_append number _) _) _
  exact ⟨digit, initial?_append (initial?_append counts _) _, isDigit⟩

theorem opensSection_heading (category : Category) : opensSection category.heading = true := by
  obtain ⟨digit, begins, isDigit⟩ := exists_initial?_heading category
  rw [opensSection, begins]
  exact isDigit

/-- A line below a heading is blank or begins with a blank. -/
theorem initial?_body {category : Category} (areEntries : ∀ entry ∈ category.entries, IsEntry entry)
    (member : line ∈ category.body) : line = "" ∨ initial? line = some ' ' := by
  rw [Category.body, List.mem_cons, List.mem_append, List.mem_singleton, List.mem_flatten] at member
  rcases member with rfl | ⟨entry, isEntry, inside⟩ | rfl
  · exact .inl rfl
  · exact .inr ((areEntries entry isEntry).initial? inside)
  · exact .inl rfl

/-- No line below a heading is a heading itself. -/
theorem opensSection_body {category : Category} (areEntries : ∀ entry ∈ category.entries, IsEntry entry) :
    ∀ line ∈ category.body, opensSection line = false := by
  intro line member
  rcases initial?_body areEntries member with rfl | begins
  · rfl
  · exact opensSection_of_initial? begins rfl

/-- The body of a section lists its entries. -/
theorem listed_body {category : Category} (areEntries : ∀ entry ∈ category.entries, IsEntry entry) :
    listed category.body = category.entries.length := by
  rw [Category.body, listed, List.countP_cons_of_neg (by decide), List.countP_append]
  exact congrArg (· + 0) (listed_flatten areEntries)

/-- Sections one behind another end a section. -/
theorem endsSection_flatMap (shown : List Category) : EndsSection (shown.flatMap Category.lines) := by
  induction shown with
  | nil => rfl
  | cons category rest inductionHypothesis =>
    rw [List.flatMap_cons, Category.lines_eq]
    split
    · exact inductionHypothesis
    · exact opensSection_heading category

/-- Of sections one behind another, those of the categories with entries are found. -/
theorem sections_flatMap {shown : List Category}
    (areEntries : ∀ category ∈ shown, ∀ entry ∈ category.entries, IsEntry entry) :
    sections (shown.flatMap Category.lines) =
      (shown.filter fun category => !category.entries.isEmpty).map fun category =>
        (category.heading, category.body) := by
  induction shown with
  | nil => rfl
  | cons category rest inductionHypothesis =>
    obtain ⟨ofCategory, ofRest⟩ := List.forall_mem_cons.mp areEntries
    rw [List.flatMap_cons, Category.lines_eq]
    cases isEmpty : category.entries.isEmpty with
    | true =>
      rw [if_pos rfl, List.nil_append, inductionHypothesis ofRest, List.filter_cons_of_neg]
      rw [isEmpty]
      exact Bool.false_ne_true
    | false =>
      rw [if_neg Bool.false_ne_true, List.cons_append, sections_cons (opensSection_heading category)
        (opensSection_body ofCategory) (endsSection_flatMap rest), inductionHypothesis ofRest,
        List.filter_cons_of_pos, List.map_cons]
      rw [isEmpty]
      rfl

/-! ## The summary -/

/-- What the lines of the summary begin with. -/
def summaryOpenings : List String :=
  ["Functions changes summary: ", "Variables changes summary: ", "Function symbols changes summary: ",
    "Variable symbols changes summary: "]

/-- What a line of the summary begins with. -/
def summaryOpening? (line : String) : Option String :=
  summaryOpenings.find? fun opening => opening.toList.isPrefixOf line.toList

/-- The lines of the summary in a report: what each of them begins with, and its numbers. -/
def summary (lines : List String) : List (String × List Nat) :=
  lines.filterMap fun line => (summaryOpening? line).map fun opening => (opening, figures line.toList)

/-- The summary in lines one behind another. -/
theorem summary_append (front below : List String) :
    summary (front ++ below) = summary front ++ summary below :=
  List.filterMap_append

/-- A line of the summary is recognized by what it begins with: none of the openings begins another one. -/
theorem summaryOpening?_append {opening : String} (member : opening ∈ summaryOpenings) (rest : String) :
    summaryOpening? (opening ++ rest) = some opening := by
  have apart : ∀ one ∈ summaryOpenings, ∀ other ∈ summaryOpenings,
      other.toList.isPrefixOf one.toList = true → other = one := by
    decide +kernel
  have begins : opening.toList <+: (opening ++ rest).toList := by
    rw [String.toList_append]
    exact List.prefix_append _ _
  cases found : summaryOpening? (opening ++ rest) with
  | none =>
    have misses := List.find?_eq_none.mp found opening member
    exact absurd (List.isPrefixOf_iff_prefix.mpr begins) misses
  | some other =>
    rw [summaryOpening?] at found
    have isOpening := List.mem_of_find?_eq_some found
    have starts := List.find?_some found
    have also := List.isPrefixOf_iff_prefix.mp starts
    rcases List.prefix_or_prefix_of_prefix also begins with one | another
    · rw [apart opening member other isOpening (List.isPrefixOf_iff_prefix.mpr one)]
    · rw [apart other isOpening opening member (List.isPrefixOf_iff_prefix.mpr another)]

/-- A line that begins with another letter is not one of the summary. -/
theorem summaryOpening?_of_initial? (begins : initial? line = some letter) (other : letter ∉ ['F', 'V']) :
    summaryOpening? line = none := by
  have letters : ∀ opening ∈ summaryOpenings, ∃ letter ∈ ['F', 'V'], initial? opening = some letter := by
    simp only [summaryOpenings, List.forall_mem_cons]
    exact ⟨⟨'F', by simp, rfl⟩, ⟨'V', by simp, rfl⟩, ⟨'F', by simp, rfl⟩, ⟨'V', by simp, rfl⟩, by simp⟩
  rw [summaryOpening?, List.find?_eq_none]
  intro opening member starts
  obtain ⟨rest, written⟩ := List.isPrefixOf_iff_prefix.mp starts
  obtain ⟨first, isFirst, ofOpening⟩ := letters opening member
  have same : initial? line = some first := by
    rw [initial?, ← written, List.head?_append]
    exact congrArg (Option.or · rest.head?) ofOpening
  exact other (Option.some.inj (begins.symm.trans same) ▸ isFirst)

/-- Lines that begin otherwise tell nothing of the summary. -/
theorem summary_eq_nil (others : ∀ line ∈ inner, summaryOpening? line = none) : summary inner = [] := by
  rw [summary, List.filterMap_eq_nil_iff]
  intro line member
  rw [others line member]
  rfl

/-- The counts that the lines of the summary tell, with what each line begins with: what was removed, changed
and added, and of symbols what was removed and added. -/
def summaryCounts (options : Options) (statistics : Difference.Statistics) :
    List (String × List ChangeCount) :=
  [("Functions changes summary: ",
      [statistics.removedFunctions, statistics.changedFunctions, statistics.addedFunctions]),
    ("Variables changes summary: ",
      [statistics.removedVariables, statistics.changedVariables, statistics.addedVariables])] ++
  if options.showUnreferenced then
    [("Function symbols changes summary: ",
        [statistics.removedFunctionSymbols, statistics.addedFunctionSymbols]),
      ("Variable symbols changes summary: ",
        [statistics.removedVariableSymbols, statistics.addedVariableSymbols])]
  else []

/-- A line of the summary is found with its numbers. -/
theorem summary_cons {opening text : String} {numbers : List Nat} (member : opening ∈ summaryOpenings)
    (reads : figures (opening ++ text).toList = numbers) (below : List String) :
    summary ((opening ++ text) :: below) = (opening, numbers) :: summary below := by
  rw [summary, List.filterMap_cons, summaryOpening?_append member, Option.map_some, reads]
  rfl

/-- The lines of the summary tell what the counts leave to report. -/
theorem summary_summaryLines (options : Options) (statistics : Difference.Statistics) :
    summary (summaryLines options statistics) =
      (summaryCounts options statistics).map fun row => (row.1, row.2.map ChangeCount.reportable) := by
  have functions : IsHeading "Functions changes summary: " :=
    ⟨"Functions changes summary", by decide, by decide⟩
  have globals : IsHeading "Variables changes summary: " :=
    ⟨"Variables changes summary", by decide, by decide⟩
  have functionSymbols : IsHeading "Function symbols changes summary: " :=
    ⟨"Function symbols changes summary", by decide, by decide⟩
  have variableSymbols : IsHeading "Variable symbols changes summary: " :=
    ⟨"Variable symbols changes summary", by decide, by decide⟩
  rw [summaryLines, summaryCounts, List.map_append, List.cons_append, List.singleton_append,
    summary_cons (by decide) (figures_changes functions (by decide) _ _ _),
    summary_cons (by decide) (figures_changes globals (by decide) _ _ _)]
  refine congrArg (_ :: _ :: ·) ?_
  split
  · rw [summary_cons (by decide) (figures_symbols functionSymbols (by decide) _ _),
      summary_cons (by decide) (figures_symbols variableSymbols (by decide) _ _)]
    rfl
  · rfl

/-! ## A report -/

/-- The lines in front of the summary. -/
def leadingLines (difference : Difference) : List String :=
  if difference.hasBinaryChanges then binaryLines difference ++ [""] else []

/-- A report has the lines about the binaries themselves, the summary and the sections. -/
theorem lines_eq (options : Options) (difference : Difference) :
    lines options difference =
      leadingLines difference ++ summaryLines options difference.statistics ++ [""] ++
        (categories options difference).flatMap Category.lines :=
  rfl

/-- A line in front of the summary is blank or about the binaries themselves. -/
theorem initial?_leadingLines (member : line ∈ leadingLines difference) :
    line = "" ∨ ∃ letter ∈ ['E', 'a', 'n'], initial? line = some letter := by
  rw [leadingLines] at member
  split at member
  · rw [List.mem_append, List.mem_singleton] at member
    exact member.symm.imp_right initial?_binaryLines
  · contradiction

/-- A line in front of the sections is blank, about the binaries themselves or one of the summary. -/
theorem initial?_front {statistics : Difference.Statistics}
    (member : line ∈ leadingLines difference ++ summaryLines options statistics ++ [""]) :
    line = "" ∨ ∃ letter ∈ ['E', 'a', 'n', 'F', 'V'], initial? line = some letter := by
  rw [List.mem_append, List.mem_append, List.mem_singleton] at member
  rcases member with (front | inSummary) | blank
  · refine (initial?_leadingLines front).imp_right fun ⟨letter, isLetter, begins⟩ => ?_
    exact ⟨letter, List.mem_append_left ['F', 'V'] isLetter, begins⟩
  · obtain ⟨letter, isLetter, begins⟩ := initial?_summaryLines inSummary
    exact .inr ⟨letter, List.mem_append_right ['E', 'a', 'n'] isLetter, begins⟩
  · exact .inl blank

/-- A report has the sections of the categories with entries, in their order. -/
theorem sections_lines (options : Options) (difference : Difference) :
    sections (lines options difference) =
      ((categories options difference).filter fun category => !category.entries.isEmpty).map
        fun category => (category.heading, category.body) := by
  have noDigits : ∀ letter ∈ ['E', 'a', 'n', 'F', 'V'], letter.isDigit = false := by simp [Char.isDigit]
  rw [lines_eq, sections_append]
  · exact sections_flatMap fun category member => isEntry_of_mem_categories member
  · intro line member
    rcases initial?_front member with rfl | ⟨letter, isLetter, begins⟩
    · rfl
    · exact opensSection_of_initial? begins (noDigits letter isLetter)

/-- In front of the summary there is nothing like it. -/
theorem summary_leadingLines (difference : Difference) : summary (leadingLines difference) = [] := by
  have others : ∀ letter ∈ ['E', 'a', 'n'], letter ∉ ['F', 'V'] := by simp
  refine summary_eq_nil fun line member => ?_
  rcases initial?_leadingLines member with rfl | ⟨letter, isLetter, begins⟩
  · decide
  · exact summaryOpening?_of_initial? begins (others letter isLetter)

/-- In a section there is nothing like the summary. -/
theorem summary_categoryLines {category : Category}
    (areEntries : ∀ entry ∈ category.entries, IsEntry entry) : summary category.lines = [] := by
  rw [Category.lines_eq]
  split
  · rfl
  · refine summary_eq_nil fun line member => ?_
    rcases List.mem_cons.mp member with rfl | below
    · obtain ⟨digit, begins, isDigit⟩ := exists_initial?_heading category
      refine summaryOpening?_of_initial? begins ?_
      simp only [List.mem_cons, List.not_mem_nil, or_false]
      rintro (rfl | rfl) <;> contradiction
    · rcases initial?_body areEntries below with rfl | begins
      · decide
      · exact summaryOpening?_of_initial? begins (by decide)

/-- A report has the lines of its summary, and no others like these. -/
theorem summary_lines (options : Options) (difference : Difference) :
    summary (lines options difference) =
      (summaryCounts options difference.statistics).map fun row =>
        (row.1, row.2.map ChangeCount.reportable) := by
  have ofSections : summary ((categories options difference).flatMap Category.lines) = [] := by
    refine summary_eq_nil fun line member => ?_
    obtain ⟨category, isCategory, inside⟩ := List.mem_flatMap.mp member
    have silent := summary_categoryLines (isEntry_of_mem_categories isCategory)
    rw [summary, List.filterMap_eq_nil_iff] at silent
    exact Option.map_eq_none_iff.mp (silent line inside)
  have blank : summary [""] = [] := by decide
  rw [lines_eq, summary_append, summary_append, summary_append, summary_leadingLines,
    summary_summaryLines, blank, ofSections, List.nil_append, List.append_nil, List.append_nil]

end Abiscope.Report
