import Abiscope.Difference.Statistics
import Abiscope.Report.TypeLines

/-!
# Reports

A report on the difference between two corpora opens with the changes of the binaries themselves and a
summary that counts the changes of every category. A section follows for every category with something
to show, one entry for every change. Entries are marked by what happened: `D` for deleted, `A` for
added, `C` for changed.
-/

namespace Abiscope.Report

/-- A number of things. -/
def counted (count : Nat) (noun : String) : String :=
  toString count ++ " " ++ noun ++ (if count > 1 then "s" else "")

/-- How many changes of a category are left out of a report. -/
def filteredSuffix (count : ChangeCount) : String :=
  if count.suppressed > 0 then s!" ({count.suppressed} filtered out)" else ""

/-- The count of a category in a summary. -/
def summaryCount (count : ChangeCount) (what : String) : String :=
  s!"{count.reportable} {what}" ++ filteredSuffix count

/-- The count of what was added, with which a line of a summary ends. -/
def addedCount (count : ChangeCount) (noun : String) : String :=
  counted count.reportable noun ++ filteredSuffix count

/-- The lines about the binaries themselves. -/
def binaryLines (difference : Difference) : List String :=
  (difference.soname.toList.map fun (old, new) => s!"ELF SONAME changed from '{old}' to '{new}'") ++
    (difference.architecture.toList.map fun (old, new) =>
      s!"architecture changed from '{old.name}' to '{new.name}'") ++
    (difference.removedNeeded.map fun name => s!"needed library '{name}' removed") ++
    difference.addedNeeded.map fun name => s!"needed library '{name}' added"

/-- The lines of the summary. -/
def summaryLines (options : Options) (statistics : Difference.Statistics) : List String :=
  let changes (removed changed added : ChangeCount) (noun : String) : String :=
    summaryCount removed "Removed" ++ ", " ++ summaryCount changed "Changed" ++ ", " ++
      addedCount added noun
  let symbols (removed added : ChangeCount) (noun : String) : String :=
    summaryCount removed "Removed" ++ ", " ++ addedCount added noun ++
      " not referenced by debug info"
  ["Functions changes summary: " ++
      changes statistics.removedFunctions statistics.changedFunctions statistics.addedFunctions
        "Added function",
    "Variables changes summary: " ++
      changes statistics.removedVariables statistics.changedVariables statistics.addedVariables
        "Added variable"] ++
  if options.showUnreferenced then
    ["Function symbols changes summary: " ++
        symbols statistics.removedFunctionSymbols statistics.addedFunctionSymbols
          "Added function symbol",
      "Variable symbols changes summary: " ++
        symbols statistics.removedVariableSymbols statistics.addedVariableSymbols
          "Added variable symbol"]
  else []

/-- A section of a report: the changes of one category, each with its lines. -/
structure Category where
  noun : String
  suffix : String := ""
  entries : List (List String)
deriving DecidableEq, Repr

/-- What happened to the changes of a category. -/
inductive Mark where
  | deleted
  | added
  | changed
deriving DecidableEq, Repr

/-- A mark as it is shown. -/
def Mark.text : Mark → String
  | deleted => "  [D] "
  | added => "  [A] "
  | changed => "  [C] "

/-- The entry of a function or variable on one side only. -/
def entityEntry (options : Options) (mark : Mark) (what : String) (change : EntityChange) :
    List String :=
  let symbol := match change.symbol with
    | some symbol => "    \x7b" ++ symbol.idString ++ "\x7d"
    | none => ""
  [mark.text ++ s!"'{what} {change.text}'" ++ symbol ++ locationSuffix options change.location ++
    labelSuffix change.suppressedBy]

/-- The changes of a category on one side only that are shown. -/
def shownEntities (options : Options) (changes : List EntityChange) : List EntityChange :=
  changes.filter fun change => options.showSuppressed || !change.isSuppressed

/-- The category of functions or variables on one side only. -/
def entityCategory (options : Options) (mark : Mark) (noun what : String)
    (changes : List EntityChange) : Category :=
  ⟨noun, "", (shownEntities options changes).map (entityEntry options mark what)⟩

/-- The lines about a parameter. -/
def parameterLines (options : Options) (parameter : ParameterDifference) : List String :=
  if !parameter.isReportable && !options.showSuppressed then []
  else
    let suffix := labelSuffix parameter.suppressedBy
    let heading (type : String) : String := s!"parameter {parameter.index + 1} of type '{type}'"
    match parameter.change with
    | .retyped difference =>
      if parameter.isSuppressed then
        [indented 4 (heading difference.finding.oldName ++ " has sub-type changes" ++ suffix)]
      else typeLines options 4 (heading difference.finding.oldName) difference
    | .removed type => [indented 4 (heading type ++ " was removed" ++ suffix)]
    | .added type => [indented 4 (heading type ++ " was added" ++ suffix)]

/-- The lines about a change of the type of something. -/
def optionalTypeLines (options : Options) (heading : String) (difference : Option TypeDifference) :
    List String :=
  match difference with
  | some difference => typeLines options 4 heading difference
  | none => []

/-- The entry of a changed function. -/
def functionEntry (options : Options) (difference : FunctionDifference) : List String :=
  (Mark.changed.text ++ s!"'function {difference.text}'" ++
    locationSuffix options difference.location ++ " has some sub-type changes:" ++
    labelSuffix difference.suppressedBy) ::
  if difference.isSuppressed then []
  else
    (difference.symbolChanges.map fun change => indented 4 change.text) ++
      optionalTypeLines options "return type changed" difference.result ++
      difference.parameters.flatMap (parameterLines options)

/-- The entry of a changed variable. -/
def variableEntry (options : Options) (difference : VariableDifference) : List String :=
  (Mark.changed.text ++ s!"'{difference.text}'" ++ locationSuffix options difference.location ++
    " was changed:" ++ labelSuffix difference.suppressedBy) ::
  if difference.isSuppressed then []
  else
    (difference.symbolChanges.map fun change => indented 4 change.text) ++
      optionalTypeLines options "type of variable changed" difference.type

/-- The category of changed functions. -/
def functionCategory (options : Options) (differences : List FunctionDifference) : Category :=
  let shown := differences.filter fun difference =>
    difference.isReportable || (options.showSuppressed && difference.hasChanges)
  ⟨"function with some sub-type change", "", shown.map (functionEntry options)⟩

/-- The category of changed variables. -/
def variableCategory (options : Options) (differences : List VariableDifference) : Category :=
  let shown := differences.filter fun difference =>
    difference.isReportable || (options.showSuppressed && difference.hasChanges)
  ⟨"Changed variable", "", shown.map (variableEntry options)⟩

/-- The entry of a symbol on one side only. -/
def symbolEntry (mark : Mark) (change : SymbolChange) : List String :=
  let demangled := match Mangling.demangle? change.symbol.name with
    | some name => "\x7b" ++ name ++ "\x7d"
    | none => ""
  [mark.text ++ change.symbol.idString ++ demangled ++ labelSuffix change.suppressedBy]

/-- The category of symbols on one side only. -/
def symbolCategory (options : Options) (mark : Mark) (noun : String)
    (changes : List SymbolChange) : Category :=
  let shown := changes.filter fun change => options.showSuppressed || !change.isSuppressed
  ⟨noun, " not referenced by debug info", shown.map (symbolEntry mark)⟩

/-- The categories of a report in their order. -/
def categories (options : Options) (difference : Difference) : List Category :=
  [entityCategory options .deleted "Removed function" "function" difference.removedFunctions,
    entityCategory options .added "Added function" "function" difference.addedFunctions,
    functionCategory options difference.changedFunctions,
    entityCategory options .deleted "Removed variable" "variable" difference.removedVariables,
    entityCategory options .added "Added variable" "variable" difference.addedVariables,
    variableCategory options difference.changedVariables] ++
  if options.showUnreferenced then
    [symbolCategory options .deleted "Removed function symbol" difference.removedFunctionSymbols,
      symbolCategory options .added "Added function symbol" difference.addedFunctionSymbols,
      symbolCategory options .deleted "Removed variable symbol" difference.removedVariableSymbols,
      symbolCategory options .added "Added variable symbol" difference.addedVariableSymbols]
  else []

/-- The lines of a category. A category without entries is left out. -/
def Category.lines (category : Category) : List String :=
  if category.entries.isEmpty then []
  else
    (counted category.entries.length category.noun ++ category.suffix ++ ":") :: "" ::
      (category.entries.flatten ++ [""])

/-- The lines of a report. -/
def lines (options : Options) (difference : Difference) : List String :=
  (if difference.hasBinaryChanges then binaryLines difference ++ [""] else []) ++
    summaryLines options difference.statistics ++ [""] ++
    (categories options difference).flatMap Category.lines

/-- The text of a report. -/
def text (options : Options) (difference : Difference) : String :=
  String.join ((lines options difference).map fun line => line ++ "\n")

end Abiscope.Report
