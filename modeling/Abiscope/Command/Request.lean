import Abiscope.Command.Grammar
import Abiscope.Difference
import Abiscope.Settings.Logging

/-!
# Requests on the command line

The program compares two binaries, lists the symbols of one, or compares several pairs. Options for
logging may stand before or behind the name of what is to be done.
-/

namespace Abiscope.Command

/-- The files with the suppressions that apply. -/
structure RuleFiles where
  named : List String := []
  usesDefault : Bool := true
deriving DecidableEq, Repr

/-- Which symbols are listed. -/
structure Listing where
  functions : Bool := false
  globals : Bool := false
  undefinedOnes : Bool := false
  all : Bool := false
deriving DecidableEq, Repr

/-- What is to be done. -/
inductive Task where
  | diff (old new : String) (rules : RuleFiles) (options : Options)
  | symbols (binary : String) (listing : Listing)
  | batch (pairs : List String) (rules : RuleFiles)
deriving DecidableEq, Repr

/-- What help is about. -/
inductive Topic where
  | program
  | diff
  | symbols
  | batch
  | help
deriving DecidableEq, Repr

/-- What the command line asks for. -/
inductive Request where
  | refused
  | help (topic : Topic)
  | version
  | perform (task : Task) (level : Option Settings.LogLevel) (format : Option Settings.LogFormat)
deriving DecidableEq, Repr

/-! ## Options -/

def acceptsLevel (word : String) : Bool := (Settings.LogLevel.ofWord word).toOption.isSome

def acceptsFormat (word : String) : Bool := (Settings.LogFormat.ofWord word).toOption.isSome

/-- Paths are not empty. -/
def acceptsPath (path : String) : Bool := path != ""

/-- The options that may stand everywhere. -/
def loggingFlags : List Flag :=
  [⟨"log-level", none, some acceptsLevel, false⟩, ⟨"log-format", none, some acceptsFormat, false⟩]

/-- The options that choose suppressions. -/
def ruleFlags : List Flag :=
  [⟨"suppressions", some 's', some acceptsPath, true⟩,
    ⟨"no-default-suppression", none, none, false⟩]

/-- Options without values. -/
def switches (names : List String) : List Flag := names.map fun name => { long := name }

/-- As many paths as there are places for. -/
def paths (places : Nat) (index : Nat) (path : String) : Bool := index < places && acceptsPath path

def programGrammar : Grammar where
  flags := loggingFlags
  takes _ _ := false
  stopsAtOperand := true
  hasVersion := true

def diffGrammar : Grammar where
  flags := loggingFlags ++ ruleFlags ++
    switches ["show-suppressed", "no-unreferenced-symbols", "no-show-locs"]
  takes := paths 2

def symbolsGrammar : Grammar where
  flags := loggingFlags ++ switches ["functions", "variables", "undefined", "all"]
  takes := paths 1

def batchGrammar : Grammar where
  flags := loggingFlags ++ ruleFlags
  takes _ _ := true

/-! ## Tasks -/

/-- The suppression files that options ask for. -/
def rulesOf (given : Given) : RuleFiles :=
  ⟨given.values "suppressions", !given.has "no-default-suppression"⟩

def diffOf (given : Given) : Option Task :=
  match given.operands with
  | [old, new] =>
    some (.diff old new (rulesOf given)
      { showLocations := !given.has "no-show-locs"
        showUnreferenced := !given.has "no-unreferenced-symbols"
        showSuppressed := given.has "show-suppressed" })
  | _ => none

/-- Functions and variables exclude each other, and so do undefined symbols and all symbols. -/
def symbolsOf (given : Given) : Option Task :=
  let listing : Listing :=
    ⟨given.has "functions", given.has "variables", given.has "undefined", given.has "all"⟩
  match given.operands with
  | [binary] =>
    if (listing.functions && listing.globals) || (listing.undefinedOnes && listing.all) then none
    else some (.symbols binary listing)
  | _ => none

def batchOf (given : Given) : Option Task :=
  match given.operands with
  | [] => none
  | pairs => some (.batch pairs (rulesOf given))

/-- The last value of an option. What stands behind the name of the task takes precedence. -/
def lastOf {α ε : Type} (ofWord : String → Except ε α) (outer inner : Given) (long : String) :
    Option α :=
  (outer.values long ++ inner.values long).getLast?.bind fun word => (ofWord word).toOption

/-- What an early stop asks for. -/
def Stop.request (topic : Topic) : Stop → Request
  | refused => .refused
  | help => .help topic
  | version => .version

/-- Reads the arguments of a task. What stands in front of the task's name is judged last. -/
def taskRequest (topic : Topic) (grammar : Grammar) (task? : Given → Option Task)
    (outer : Except Stop Given) (arguments : List String) : Request :=
  let perform : Except Stop Request := do
    let given ← (← grammar.read {} arguments).1
    match task? given with
    | none => throw .refused
    | some task =>
      let outer ← outer
      return .perform task (lastOf Settings.LogLevel.ofWord outer given "log-level")
        (lastOf Settings.LogFormat.ofWord outer given "log-format")
  match perform with
  | .ok request => request
  | .error stop => stop.request topic

/-- What help is asked about by name. -/
def helpRequest : List String → Request
  | [] => .help .program
  | ["diff"] => .help .diff
  | ["symbols"] => .help .symbols
  | ["batch"] => .help .batch
  | ["help"] => .help .help
  | _ => .refused

/-- Reads the command line. -/
def Request.ofArguments (arguments : List String) : Request :=
  match programGrammar.read {} arguments with
  | .error stop => stop.request .program
  | .ok (outer, "diff" :: rest) => taskRequest .diff diffGrammar diffOf outer rest
  | .ok (outer, "symbols" :: rest) => taskRequest .symbols symbolsGrammar symbolsOf outer rest
  | .ok (outer, "batch" :: rest) => taskRequest .batch batchGrammar batchOf outer rest
  | .ok (_, "help" :: rest) => helpRequest rest
  | .ok _ => .refused

end Abiscope.Command
