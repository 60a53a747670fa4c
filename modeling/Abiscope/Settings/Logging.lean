import Abiscope.Text.FilePath

/-!
# Logging settings

How much is logged, in which shape, and to which file. Settings come from the environment first; what
the command line gives takes precedence. Words are read without regard to case.
-/

namespace Abiscope.Settings

/-- The shape of log lines. -/
inductive LogFormat where
  | pretty
  | json
deriving DecidableEq, Repr

/-- The least urgent messages that are logged. -/
inductive LogLevel where
  | error
  | warn
  | info
  | debug
  | trace
deriving DecidableEq, Repr

/-- A word that names no format or no level. -/
inductive LoggingError where
  | invalidFormat (word : String)
  | invalidLevel (word : String)
deriving DecidableEq, Repr

/-- The text of an error, which lists the words that are known. -/
def LoggingError.message : LoggingError → String
  | .invalidFormat word => s!"Invalid log format: {word}. Use 'pretty' or 'json'"
  | .invalidLevel word =>
    s!"Invalid log level: {word}. Use 'error', 'warn', 'info', 'debug', or 'trace'"

namespace LogFormat

/-- The format that a word names. -/
def ofWord (word : String) : Except LoggingError LogFormat :=
  match word.toLower with
  | "pretty" | "text" => .ok pretty
  | "json" => .ok json
  | _ => .error (.invalidFormat word)

/-- The word for a format. -/
def word : LogFormat → String
  | pretty => "pretty"
  | json => "json"

end LogFormat

namespace LogLevel

/-- The level that a word names. -/
def ofWord (word : String) : Except LoggingError LogLevel :=
  match word.toLower with
  | "error" | "err" => .ok error
  | "warn" | "warning" => .ok warn
  | "info" => .ok info
  | "debug" | "dbg" => .ok debug
  | "trace" => .ok trace
  | _ => .error (.invalidLevel word)

/-- The word for a level. -/
def word : LogLevel → String
  | error => "error"
  | warn => "warn"
  | info => "info"
  | debug => "debug"
  | trace => "trace"

end LogLevel

/-- Settings of a run. Without a level, the environment decides how much is logged. -/
structure Logging where
  level : Option LogLevel := none
  format : LogFormat := .pretty
  file : Option String := none
deriving DecidableEq, Repr

namespace Logging

/-- The variable that names the format. -/
def formatVariable : String := "ABICOMP_LOG_FORMAT"

/-- The variable that names the file. An empty value means no file. -/
def fileVariable : String := "ABICOMP_LOG_FILE"

/-- The settings that the environment asks for. -/
def ofEnvironment (lookup : String → Option String) : Except LoggingError Logging := do
  let format ← match lookup formatVariable with
    | some word => LogFormat.ofWord word
    | none => .ok .pretty
  return { format := format, file := (lookup fileVariable).filter (· != "") }

/-- A level that is given replaces the one before; none leaves it. -/
def withLevel (settings : Logging) (level : Option LogLevel) : Logging :=
  { settings with level := level <|> settings.level }

def withFormat (settings : Logging) (format : LogFormat) : Logging :=
  { settings with format := format }

/-- The directory that a log file needs. A path without a name cannot be that of a file. -/
def directory? (path : String) : Option String :=
  (Text.FilePath.baseName? path).map fun _ => Text.FilePath.parent path

end Logging

end Abiscope.Settings
