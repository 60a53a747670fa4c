import Abiscope.Suppression

/-!
# Suppression files

A suppression file lists tables about functions, variables and types, each with the properties that
were written and the place where it begins. Turning the tables into rules checks what the shape of a
table cannot say: keywords, the completeness of parameter entries, and patterns. Unlike a rule that is
built otherwise, a rule from a file never has a malformed pattern.

Values are checked kind by kind, first functions, then variables, then types; patterns afterwards, in
the order of the text, which is also the order of the rules.
-/

namespace Abiscope.Suppression

/-- Why a suppression file cannot be used. -/
inductive FileError where
  | unreadable (path details : String)
  | malformed (origin : String)
  | invalidPattern (label property : String)
  | invalidValue (label property value : String)
deriving DecidableEq, Repr

/-- The text of an error. -/
def FileError.message : FileError → String
  | unreadable path details => s!"Failed to read suppression file {path}: {details}"
  | malformed origin => s!"Failed to parse suppression file {origin}"
  | invalidPattern label property =>
    s!"Invalid regular expression for '{property}' in suppression '{label}'"
  | invalidValue label property value =>
    s!"Invalid value for '{property}' in suppression '{label}': {value}"

/-- The properties that all tables share. -/
structure HeaderTable where
  label : String := ""
  drop : Bool := false
  fileNamePattern : Option String := none
  fileNameNotPattern : Option String := none
  sonamePattern : Option String := none
  sonameNotPattern : Option String := none
deriving DecidableEq, Repr

/-- An entry about one parameter. -/
structure ParameterTable where
  index : Nat
  typeName : Option String := none
  typeNamePattern : Option String := none
deriving DecidableEq, Repr

/-- A table about functions. -/
structure FunctionTable where
  header : HeaderTable := {}
  changeKind : Option String := none
  name : Option String := none
  namePattern : Option String := none
  nameNotPattern : Option String := none
  returnTypeName : Option String := none
  returnTypePattern : Option String := none
  parameters : List ParameterTable := []
  symbolName : Option String := none
  symbolNamePattern : Option String := none
  symbolNameNotPattern : Option String := none
  symbolVersion : Option String := none
  symbolVersionPattern : Option String := none
  allowOtherAliases : Option Bool := none
deriving DecidableEq, Repr

/-- A table about variables. -/
structure VariableTable where
  header : HeaderTable := {}
  changeKind : Option String := none
  name : Option String := none
  namePattern : Option String := none
  nameNotPattern : Option String := none
  symbolName : Option String := none
  symbolNamePattern : Option String := none
  symbolNameNotPattern : Option String := none
  symbolVersion : Option String := none
  symbolVersionPattern : Option String := none
  typeName : Option String := none
  typeNamePattern : Option String := none
deriving DecidableEq, Repr

/-- An end of a range as it is written: an offset or a keyword. -/
inductive BoundaryValue where
  | offset (bits : Nat)
  | keyword (word : String)
deriving DecidableEq, Repr

/-- A table about types. -/
structure TypeTable where
  header : HeaderTable := {}
  name : Option String := none
  namePattern : Option String := none
  nameNotPattern : Option String := none
  typeKind : Option String := none
  accessedThrough : Option String := none
  locationNotIn : List String := []
  locationNotPattern : Option String := none
  insertedAt : Option BoundaryValue := none
  insertedBetween : List (BoundaryValue × BoundaryValue) := []
  changedEnumerators : List String := []
deriving DecidableEq, Repr

/-- The tables of a file, each with the place where it begins. -/
structure File where
  functions : List (Nat × FunctionTable) := []
  globals : List (Nat × VariableTable) := []
  types : List (Nat × TypeTable) := []

/-- A pattern property. A property that is left out is no pattern. -/
def patternOf (property : Option String) : Pattern := Pattern.ofText (property.getD "")

def pairOf (only except : Option String) : PatternPair := ⟨patternOf only, patternOf except⟩

namespace HeaderTable

def toHeader (table : HeaderTable) : Header where
  label := table.label
  drops := table.drop
  fileName := pairOf table.fileNamePattern table.fileNameNotPattern
  soname := pairOf table.sonamePattern table.sonameNotPattern

end HeaderTable

/-- The kinds of change that a keyword asks for, which ends with the kind of thing that changes. -/
def changesOf (table : HeaderTable) (keyword : Option String) (added deleted subtype : String) :
    Except FileError Changes :=
  match keyword with
  | none => .ok {}
  | some word =>
    if word == "all" then .ok {}
    else if word == added then .ok Changes.onlyAdded
    else if word == deleted then .ok Changes.onlyDeleted
    else if word == subtype then .ok Changes.onlySubtype
    else .error (.invalidValue table.label "change_kind" word)

/-- The criterion of a parameter entry. A pattern goes before a name, and one of them is needed. -/
def ParameterTable.toSpec (label : String) (table : ParameterTable) :
    Except FileError ParameterSpec :=
  match table.typeNamePattern, table.typeName with
  | some pattern, _ => .ok ⟨table.index, ⟨none, Pattern.ofText pattern⟩⟩
  | none, some name => .ok ⟨table.index, ⟨some name, Pattern.absent⟩⟩
  | none, none =>
    let value := s!"index {table.index} has no type_name or type_name_regexp"
    .error (.invalidValue label "parameter" value)

/-- The rule of a table about functions. -/
def FunctionTable.toRule (table : FunctionTable) : Except FileError FunctionRule := do
  let changes ← changesOf table.header table.changeKind
    "added-function" "deleted-function" "function-subtype-change"
  let parameters ← table.parameters.mapM (ParameterTable.toSpec table.header.label)
  return {
    header := table.header.toHeader
    changes := changes
    name := ⟨table.name, pairOf table.namePattern table.nameNotPattern⟩
    resultType := ⟨table.returnTypeName, patternOf table.returnTypePattern⟩
    parameters := parameters
    symbolName := ⟨table.symbolName, pairOf table.symbolNamePattern table.symbolNameNotPattern⟩
    symbolVersion := ⟨table.symbolVersion, patternOf table.symbolVersionPattern⟩
    allowsAliases := table.allowOtherAliases.getD true }

/-- The rule of a table about variables. -/
def VariableTable.toRule (table : VariableTable) : Except FileError VariableRule := do
  let changes ← changesOf table.header table.changeKind
    "added-variable" "deleted-variable" "variable-subtype-change"
  return {
    header := table.header.toHeader
    changes := changes
    name := ⟨table.name, pairOf table.namePattern table.nameNotPattern⟩
    symbolName := ⟨table.symbolName, pairOf table.symbolNamePattern table.symbolNameNotPattern⟩
    symbolVersion := ⟨table.symbolVersion, patternOf table.symbolVersionPattern⟩
    type := ⟨table.typeName, patternOf table.typeNamePattern⟩ }

/-- The end of a range. The only keyword is the end of the type. -/
def BoundaryValue.toBoundary (label property : String) : BoundaryValue → Except FileError Boundary
  | offset bits => .ok (.offset (UInt64.ofNat bits))
  | keyword word =>
    if word == "end" then .ok .endOfType else .error (.invalidValue label property word)

/-- What a keyword stands for, if it is one. -/
def keywordOf {α : Type} (label property : String) (ofWord? : String → Option α) :
    Option String → Except FileError (Option α)
  | none => .ok none
  | some word =>
    match ofWord? word with
    | some value => .ok (some value)
    | none => .error (.invalidValue label property word)

/-- The rule of a table about types. A single offset is a range from it to itself. -/
def TypeTable.toRule (table : TypeTable) : Except FileError TypeRule := do
  let label := table.header.label
  let kind ← keywordOf label "type_kind" TypeKind.ofWord? table.typeKind
  let reach ← keywordOf label "accessed_through" ReachKind.ofWord? table.accessedThrough
  let at_ ← table.insertedAt.toList.mapM fun value => do
    let boundary ← value.toBoundary label "has_data_member_inserted_at"
    return InsertionRange.mk boundary boundary
  let between ← table.insertedBetween.mapM fun (first, last) => do
    let first ← first.toBoundary label "has_data_member_inserted_between"
    let last ← last.toBoundary label "has_data_member_inserted_between"
    return InsertionRange.mk first last
  return {
    header := table.header.toHeader
    name := table.name
    namePatterns := pairOf table.namePattern table.nameNotPattern
    kind := kind
    reach := reach
    insertions := at_ ++ between
    keptFiles := table.locationNotIn
    keptFilePattern := patternOf table.locationNotPattern
    enumerators := table.changedEnumerators }

/-- Refuses a rule with a malformed pattern. -/
def checkPatterns (suppression : Suppression) : Except FileError Unit :=
  match suppression.patterns.find? fun entry => !entry.2.isWellFormed with
  | some entry => .error (.invalidPattern suppression.label entry.1)
  | none => .ok ()

/-- Converts tables, which keep their places. -/
def toRules {α β : Type} (convert : α → Except FileError β) (about : β → Suppression)
    (tables : List (Nat × α)) : Except FileError (List (Nat × Suppression)) :=
  tables.mapM fun (start, table) => do return (start, about (← convert table))

/-- The rules of a file in the order of its text. -/
def File.suppressions (file : File) : Except FileError (List Suppression) := do
  let functions ← toRules FunctionTable.toRule .aboutFunction file.functions
  let globals ← toRules VariableTable.toRule .aboutVariable file.globals
  let types ← toRules TypeTable.toRule .aboutType file.types
  let placed := (functions ++ globals ++ types).mergeSort fun left right => left.1 ≤ right.1
  let suppressions := placed.map Prod.snd
  suppressions.forM checkPatterns
  return suppressions

end Abiscope.Suppression
