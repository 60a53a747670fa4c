import Abiscope.Command.Help
import Abiscope.Corpus.Reading
import Abiscope.Failure
import Abiscope.Report
import Abiscope.Settings.DefaultSuppressions
import Abiscope.Suppression.FileReader

/-!
# Runs of the program

A run answers a request from what it finds around it: variables and files. Suppressions come from the
files that were named, in their order, and then from the default one. A comparison reads both binaries
with all suppressions and reports what is left of the changes; a batch does so for pair after pair, and
goes on when one of them fails.
-/

namespace Abiscope.Command

/-- What a run finds around it. -/
structure Surroundings where
  lookup : String → Option String
  /-- The content of a file, or the reason why there is none. -/
  read : String → Except String ByteArray
  isPresent : String → Bool
  /-- Whether a directory is there or can be made. -/
  canHold : String → Bool

/-- What a run leaves behind. -/
structure Outcome where
  code : Nat
  output : String := ""
  complaint : String := ""
deriving DecidableEq, Repr

namespace Surroundings

/-- The suppression files that apply, the default one last. -/
def ruleFiles (around : Surroundings) (rules : RuleFiles) : List String :=
  rules.named ++
    if rules.usesDefault then
      (Settings.defaultSuppressions? around.lookup around.isPresent).toList
    else []

/-- The suppressions of all files that apply. -/
def suppressions (around : Surroundings) (rules : RuleFiles) : Except Failure (List Suppression) :=
  Except.mapError Failure.suppressions <| List.flatten <$>
    (around.ruleFiles rules).mapM fun path => Suppression.loadFile path (around.read path)

/-- The corpus of the binary at a path. -/
def corpus (around : Surroundings) (suppressions : List Suppression) (path : String) :
    Except Failure Corpus := do
  let image ← (around.read path).mapError .unreadable
  (Corpus.ofImage path image suppressions).mapError .binary

/-- The difference between the binaries at two paths. Corpora that are read from images declare nothing, so
there are no types whose sizes could fail to be found. -/
def difference (around : Surroundings) (suppressions : List Suppression) (options : Options)
    (old new : String) : Except Failure Difference := do
  let first ← around.corpus suppressions old
  let second ← around.corpus suppressions new
  return .ofCorpora first second suppressions options

end Surroundings

/-- The symbols that are listed. -/
def Listing.selection (listing : Listing) (table : Symbol.Table) : Symbol.Selection :=
  let base : Symbol.Selection :=
    if listing.all then {}
    else if listing.undefinedOnes then { undefinedOnes := some true }
    else table.interface
  { base with
    functions := if listing.functions then some true else base.functions
    globals := if listing.globals then some true else base.globals }

/-- The line about a symbol: id string, type, binding, size and readable name, set apart by tabs. -/
def symbolLine (symbol : Symbol) : String :=
  "\t".intercalate
    [symbol.idString, symbol.kind.name, symbol.binding.name, toString symbol.size.toNat,
      (Mangling.demangle? symbol.name).getD ""] ++ "\n"

/-- The two paths of a pair, which the first colon separates. -/
def pairOf (pair : String) : Except Failure (String × String) :=
  let old := pair.toList.takeWhile (· != ':')
  match pair.toList.dropWhile (· != ':') with
  | _ :: new =>
    if old.isEmpty || new.isEmpty then .error (.argument s!"expected OLD:NEW, got '{pair}'")
    else .ok (String.ofList old, String.ofList new)
  | [] => .error (.argument s!"expected OLD:NEW, got '{pair}'")

/-- How many pairs may be compared at a time: no more than there are or than the machine can do at
once, but at least one. The output keeps the order of the pairs all the same. -/
def batchWidth (available pairs : Nat) : Nat := max 1 (min available pairs)

/-- The line that opens the output about a pair. -/
def pairLine (pair : String × String) : String := s!"==== {pair.1} vs {pair.2} ====\n"

/-- The status and output of a pair, given its comparison. -/
def pairOutput (options : Options) (pair : String × String) :
    Except Failure Difference → Status × String
  | .ok difference => (difference.status, pairLine pair ++ Report.text options difference)
  | .error failure =>
    ({ hasFailed := true }, pairLine pair ++ "error: " ++ failure.message ++ "\n")

/-- Compares pair after pair. Only a fatal failure ends the batch. -/
def runPairs (around : Surroundings) (suppressions : List Suppression) (options : Options) :
    List (String × String) → Except Failure (Status × String)
  | [] => .ok ({}, "")
  | pair :: rest => do
    let compared := around.difference suppressions options pair.1 pair.2
    if let .error failure := compared then
      if failure.isFatal then throw failure
    let (status, output) := pairOutput options pair compared
    let (others, further) ← runPairs around suppressions options rest
    return (status.join others, output ++ further)

/-- Does a task. -/
def Task.run (around : Surroundings) : Task → Except Failure (Status × String)
  | diff old new rules options => do
    let suppressions ← around.suppressions rules
    let difference ← around.difference suppressions options old new
    return (difference.status, Report.text options difference)
  | symbols binary listing => do
    let corpus ← around.corpus [] binary
    let places := corpus.table.select (listing.selection corpus.table)
    return ({}, String.join ((places.filterMap corpus.table.symbol?).map symbolLine))
  | batch pairs rules => do
    let pairs ← pairs.mapM pairOf
    let suppressions ← around.suppressions rules
    runPairs around suppressions {} pairs

/-- The exit code of a run that a failure ends at once. -/
def fatalCode : Nat := 101

/-- The exit code of a failure. -/
def failureCode (failure : Failure) : Nat :=
  if failure.isFatal then fatalCode
  else
    match failure with
    | .argument _ => ({ isMisused := true } : Status).code
    | _ => ({ hasFailed := true } : Status).code

/-- The text of a failure on its own. -/
def complaintOf : Failure → String
  | .argument details => details
  | failure => failure.message

/-- What a task leaves behind. -/
def outcomeOf : Except Failure (Status × String) → Outcome
  | .ok (status, output) => { code := status.code, output := output }
  | .error failure => { code := failureCode failure, complaint := complaintOf failure }

/-- Checks the settings for logging: those of the environment have to make sense, and a log file needs a
directory. The code is that of the failure. -/
def checkLogging (around : Surroundings) : Except Nat Unit :=
  match Settings.Logging.ofEnvironment around.lookup with
  | .error _ => .error ({ isMisused := true } : Status).code
  | .ok settings =>
    match settings.file with
    | none => .ok ()
    | some path =>
      if (Settings.Logging.directory? path).any around.canHold then .ok ()
      else .error ({ hasFailed := true } : Status).code

/-- Answers a request. -/
def Request.run (around : Surroundings) : Request → Outcome
  | refused => { code := ({ isMisused := true } : Status).code, complaint := "unusable arguments" }
  | help topic => { code := 0, output := topic.helpText.text }
  | version => { code := 0, output := versionLine }
  | perform task _ _ =>
    match checkLogging around with
    | .error code => { code := code, complaint := "Failed to initialize logging" }
    | .ok () => outcomeOf (task.run around)

/-- The files that a task reads. -/
def Task.files (around : Surroundings) : Task → List String
  | diff old new rules _ => around.ruleFiles rules ++ [old, new]
  | symbols binary _ => [binary]
  | batch pairs rules =>
    around.ruleFiles rules ++ pairs.flatMap fun pair =>
      match pairOf pair with
      | .ok (old, new) => [old, new]
      | .error _ => []

end Abiscope.Command
