import Abiscope.Suppression.File
import Abiscope.Text.Utf8
import Abiscope.Toml.Reader

/-!
# Reading suppression files

A suppression file is configuration text with three arrays of tables. Each property has one type, all
but the index of a parameter may be left out, and a property that is not known is refused. A table may
also be given as an array of its properties in their fixed order, from which only properties at the end
with a default of their own may be missing.
-/

namespace Abiscope.Suppression.FileReader

open Toml (Value Line)

/-- The entries of a table, each key once. -/
abbrev Entries := List (String × Value)

/-- Reads a property that may be left out. -/
def optional {α : Type} (read : Value → Option α) (entries : Entries) (key : String) :
    Option (Option α) :=
  match Toml.lookup? entries key with
  | none => some none
  | some value => (read value).map some

def text : Value → Option String
  | .text content => some content
  | _ => none

def boolean : Value → Option Bool
  | .boolean value => some value
  | _ => none

/-- A number that is not negative. -/
def natural : Value → Option Nat
  | .integer value => if 0 ≤ value then some value.toNat else none
  | _ => none

def boundary : Value → Option BoundaryValue
  | .text word => some (.keyword word)
  | value => (natural value).map .offset

/-- An array of values that are all read alike. -/
def listOf {α : Type} (read : Value → Option α) : Value → Option (List α)
  | .array elements => elements.mapM fun element => read element.2
  | _ => none

/-- The first two elements of an array. -/
def pairOfBoundaries : Value → Option (BoundaryValue × BoundaryValue)
  | .array (first :: second :: _) => do return (← boundary first.2, ← boundary second.2)
  | _ => none

/-- The properties of a kind of table in their fixed order, each with whether it has a default of its
own. -/
abbrev Shape := List (String × Bool)

/-- The entries of a table of some shape. No unknown property may be among them. -/
def entriesOf (shape : Shape) : Value → Option Entries
  | .table entries =>
    if entries.all fun entry => shape.any fun property => property.1 == entry.1 then some entries
    else none
  | .array elements =>
    if (shape.drop elements.length).all (·.2) then
      some (shape.zipWith (fun property element => (property.1, element.2)) elements)
    else none
  | _ => none

/-- The properties about the binary that all tables share, as far as they come first. -/
def headerShape : Shape :=
  [("label", true), ("drop", true), ("file_name_regexp", false), ("file_name_not_regexp", false),
    ("soname_regexp", false), ("soname_not_regexp", false)]

def parameterShape : Shape := [("index", false), ("type_name", false), ("type_name_regexp", false)]

def functionShape : Shape :=
  headerShape ++
    [("change_kind", false), ("name", false), ("name_regexp", false), ("name_not_regexp", false),
      ("return_type_name", false), ("return_type_regexp", false), ("parameter", true),
      ("symbol_name", false), ("symbol_name_regexp", false), ("symbol_name_not_regexp", false),
      ("symbol_version", false), ("symbol_version_regexp", false), ("allow_other_aliases", false)]

def variableShape : Shape :=
  headerShape ++
    [("change_kind", false), ("name", false), ("name_regexp", false), ("name_not_regexp", false),
      ("symbol_name", false), ("symbol_name_regexp", false), ("symbol_name_not_regexp", false),
      ("symbol_version", false), ("symbol_version_regexp", false), ("type_name", false),
      ("type_name_regexp", false)]

def typeShape : Shape :=
  headerShape ++
    [("name", false), ("name_regexp", false), ("name_not_regexp", false), ("type_kind", false),
      ("accessed_through", false), ("source_location_not_in", true),
      ("source_location_not_regexp", false), ("has_data_member_inserted_at", false),
      ("has_data_member_inserted_between", true), ("changed_enumerators", true)]

def headerTable (entries : Entries) : Option HeaderTable := do
  return {
    label := (← optional text entries "label").getD ""
    drop := (← optional boolean entries "drop").getD false
    fileNamePattern := ← optional text entries "file_name_regexp"
    fileNameNotPattern := ← optional text entries "file_name_not_regexp"
    sonamePattern := ← optional text entries "soname_regexp"
    sonameNotPattern := ← optional text entries "soname_not_regexp" }

def parameterTable (value : Value) : Option ParameterTable := do
  let entries ← entriesOf parameterShape value
  return {
    index := ← (← Toml.lookup? entries "index") |> natural
    typeName := ← optional text entries "type_name"
    typeNamePattern := ← optional text entries "type_name_regexp" }

def functionTable (value : Value) : Option FunctionTable := do
  let entries ← entriesOf functionShape value
  return {
    header := ← headerTable entries
    changeKind := ← optional text entries "change_kind"
    name := ← optional text entries "name"
    namePattern := ← optional text entries "name_regexp"
    nameNotPattern := ← optional text entries "name_not_regexp"
    returnTypeName := ← optional text entries "return_type_name"
    returnTypePattern := ← optional text entries "return_type_regexp"
    parameters := (← optional (listOf parameterTable) entries "parameter").getD []
    symbolName := ← optional text entries "symbol_name"
    symbolNamePattern := ← optional text entries "symbol_name_regexp"
    symbolNameNotPattern := ← optional text entries "symbol_name_not_regexp"
    symbolVersion := ← optional text entries "symbol_version"
    symbolVersionPattern := ← optional text entries "symbol_version_regexp"
    allowOtherAliases := ← optional boolean entries "allow_other_aliases" }

def variableTable (value : Value) : Option VariableTable := do
  let entries ← entriesOf variableShape value
  return {
    header := ← headerTable entries
    changeKind := ← optional text entries "change_kind"
    name := ← optional text entries "name"
    namePattern := ← optional text entries "name_regexp"
    nameNotPattern := ← optional text entries "name_not_regexp"
    symbolName := ← optional text entries "symbol_name"
    symbolNamePattern := ← optional text entries "symbol_name_regexp"
    symbolNameNotPattern := ← optional text entries "symbol_name_not_regexp"
    symbolVersion := ← optional text entries "symbol_version"
    symbolVersionPattern := ← optional text entries "symbol_version_regexp"
    typeName := ← optional text entries "type_name"
    typeNamePattern := ← optional text entries "type_name_regexp" }

def typeTable (value : Value) : Option TypeTable := do
  let entries ← entriesOf typeShape value
  return {
    header := ← headerTable entries
    name := ← optional text entries "name"
    namePattern := ← optional text entries "name_regexp"
    nameNotPattern := ← optional text entries "name_not_regexp"
    typeKind := ← optional text entries "type_kind"
    accessedThrough := ← optional text entries "accessed_through"
    locationNotIn := (← optional (listOf text) entries "source_location_not_in").getD []
    locationNotPattern := ← optional text entries "source_location_not_regexp"
    insertedAt := ← optional boundary entries "has_data_member_inserted_at"
    insertedBetween :=
      (← optional (listOf pairOfBoundaries) entries "has_data_member_inserted_between").getD []
    changedEnumerators := (← optional (listOf text) entries "changed_enumerators").getD [] }

/-! ## From lines to tables -/

/-- The arrays of a file as they are filled line by line: under each name the elements with their
places, and whether the array was written as one value, which no header may extend. -/
structure Arrays where
  elements : List (String × Bool × List (Nat × Value)) := []

/-- Adds a property to the entries of a table. No key comes twice. -/
def addEntry (entries : Entries) (key : String) (value : Value) : Option Entries :=
  if entries.any (·.1 == key) then none else some (entries ++ [(key, value)])

/-- The place of the last element that headers have begun: an element of an array of the file, or an
element of an array inside it. -/
inductive Place where
  | top
  | element (name : String)
  | inner (name key : String)

/-- Changes the last element of a list. -/
def changeLast {α : Type} (change : α → Option α) : List α → Option (List α)
  | [] => none
  | [last] => (change last).map ([·])
  | first :: rest => (changeLast change rest).map (first :: ·)

/-- Changes the last element of the array of some name, which headers must have begun. -/
def changeElement (arrays : Arrays) (name : String) (change : Entries → Option Entries) :
    Option Arrays := do
  let elements ← arrays.elements.mapM fun (key, isValue, elements) =>
    if key == name then
      if isValue then none
      else do
        let elements ← changeLast (fun (start, value) =>
          match value with
          | .table entries => (change entries).map fun entries => (start, .table entries)
          | _ => none) elements
        return (key, isValue, elements)
    else some (key, isValue, elements)
  if elements.any (·.1 == name) then some { arrays with elements := elements } else none

/-- Begins a new element of the array of some name. -/
def beginElement (arrays : Arrays) (name : String) (start : Nat) : Option Arrays :=
  let fresh : Nat × Value := (start, .table [])
  if arrays.elements.any (·.1 == name) then do
    let elements ← arrays.elements.mapM fun (key, isValue, elements) =>
      if key != name then some (key, isValue, elements)
      else if isValue then none
      else some (key, isValue, elements ++ [fresh])
    return { arrays with elements := elements }
  else some { arrays with elements := arrays.elements ++ [(name, false, [fresh])] }

/-- Begins a new element of an array inside a table, which must not have been written as one value. The
keys of arrays that headers have begun are told apart by `begun`. -/
def beginInner (begun : Bool) (entries : Entries) (key : String) (start : Nat) : Option Entries :=
  let fresh : Nat × Value := (start, .table [])
  match Toml.lookup? entries key with
  | none => some (entries ++ [(key, .array [fresh])])
  | some (.array elements) =>
    if begun then
      some (entries.map fun entry =>
        if entry.1 == key then (key, .array (elements ++ [fresh])) else entry)
    else none
  | some _ => none

/-- Adds a property to the last element of an array inside a table. -/
def addInner (entries : Entries) (key property : String) (value : Value) : Option Entries :=
  match Toml.lookup? entries key with
  | some (.array elements) => do
    let elements ← changeLast (fun (start, element) =>
      match element with
      | .table inner => (addEntry inner property value).map fun inner => (start, .table inner)
      | _ => none) elements
    return entries.map fun entry => if entry.1 == key then (key, .array elements) else entry
  | _ => none

/-- The state between two lines. `begun` lists the arrays that headers have begun inside the last
elements, each with the name of the array that the element is in. -/
structure State where
  arrays : Arrays := {}
  place : Place := .top
  begun : List (String × String) := []

/-- Takes in a line. -/
def State.step (state : State) : Line → Option State
  | .element [name] start => do
    return ⟨← beginElement state.arrays name start, .element name,
      state.begun.filter (·.1 != name)⟩
  | .element [name, key] start => do
    let arrays ← changeElement state.arrays name fun entries =>
      beginInner (state.begun.contains (name, key)) entries key start
    return ⟨arrays, .inner name key, (name, key) :: state.begun⟩
  | .element _ _ => none
  | .property key value =>
    match state.place with
    | .top =>
      match value with
      | .array elements =>
        if state.arrays.elements.any (·.1 == key) then none
        else some { state with arrays.elements := state.arrays.elements ++ [(key, true, elements)] }
      | _ => none
    | .element name => do
      return { state with
        arrays := ← changeElement state.arrays name fun entries => addEntry entries key value }
    | .inner name inner => do
      return { state with
        arrays := ← changeElement state.arrays name fun entries => addInner entries inner key value }

/-- The tables of an array of the file; none if the array is missing. -/
def tables {α : Type} (arrays : Arrays) (name : String) (read : Value → Option α) :
    Option (List (Nat × α)) :=
  match arrays.elements.find? (·.1 == name) with
  | none => some []
  | some (_, _, elements) => elements.mapM fun (start, value) => do return (start, ← read value)

/-- The arrays that a file may hold. -/
def arrayNames : List String := ["suppress_function", "suppress_variable", "suppress_type"]

/-- The tables of a text, if it has the shape of a suppression file. -/
def file? (text : String) : Option File := do
  let lines ← Toml.linesOf? text
  let state ← lines.foldlM State.step {}
  if state.arrays.elements.all fun entry => arrayNames.contains entry.1 then
    return {
      functions := ← tables state.arrays "suppress_function" functionTable
      globals := ← tables state.arrays "suppress_variable" variableTable
      types := ← tables state.arrays "suppress_type" typeTable }
  else none

end FileReader

/-- The rules of the text of a suppression file. The origin names the text in errors. -/
def parseFile (text origin : String) : Except FileError (List Suppression) :=
  match FileReader.file? text with
  | some file => file.suppressions
  | none => .error (.malformed origin)

/-- The rules of a suppression file, given its content or the reason why it cannot be read. -/
def loadFile (path : String) : Except String ByteArray → Except FileError (List Suppression)
  | .error details => .error (.unreadable path details)
  | .ok bytes =>
    match Text.Utf8.decode? bytes.data.toList with
    | some text => parseFile (String.ofList text) path
    | none => .error (.unreadable path "stream did not contain valid UTF-8")

end Abiscope.Suppression
