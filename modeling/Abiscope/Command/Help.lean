import Abiscope.Command.Request

/-!
# Help texts

Every help text says what something does, how it is called, and which operands and options it takes, with
the descriptions in one column.
-/

namespace Abiscope.Command

/-- What a help text lists: names with descriptions under a title. -/
structure HelpList where
  title : String
  items : List (String × String)

/-- A help text. -/
structure HelpText where
  about : String
  usage : String
  lists : List HelpList

namespace HelpText

/-- A name filled up with blanks, and its description. -/
def row (width : Nat) (item : String × String) : String :=
  let padding := String.ofList (List.replicate (width - item.1.length) ' ')
  "  " ++ item.1 ++ padding ++ "  " ++ item.2

/-- The lines of a list, whose descriptions start in one column. -/
def listLines (list : HelpList) : List String :=
  let width := (list.items.map fun item => item.1.length).foldl max 0
  ["", list.title ++ ":"] ++ list.items.map (row width)

/-- The text with all its lists. -/
def text (help : HelpText) : String :=
  String.join <| ([help.about, "", "Usage: " ++ help.usage] ++
    help.lists.flatMap listLines).map fun line => line ++ "\n"

end HelpText

def levelItem : String × String :=
  ("    --log-level <LOG_LEVEL>", "Log level (overrides RUST_LOG)")

def formatItem : String × String :=
  ("    --log-format <LOG_FORMAT>", "Log format: pretty or json (overrides ABICOMP_LOG_FORMAT)")

def rulesItem : String × String :=
  ("-s, --suppressions <FILE>", "Suppression file (TOML); may be given several times")

def noDefaultItem : String × String :=
  ("    --no-default-suppression", "Do not load the default suppression file")

def helpItem : String × String := ("-h, --help", "Print help")

/-- What every task does. -/
def Topic.about : Topic → String
  | program => "Compare the ABI of ELF binaries, filtering noise with suppression rules"
  | diff => "Compare two binaries and report ABI changes"
  | symbols => "List the symbols of a binary that take part in comparisons"
  | batch => "Compare several pairs of binaries in parallel"
  | help => "Print this message or the help of the given subcommand(s)"

/-- How the program and its tasks are called. -/
def Topic.usage : Topic → String
  | program => "abicomp [OPTIONS] <COMMAND>"
  | diff => "abicomp diff [OPTIONS] <OLD> <NEW>"
  | symbols => "abicomp symbols [OPTIONS] <BINARY>"
  | batch => "abicomp batch [OPTIONS] <OLD:NEW>..."
  | help => "abicomp help [COMMAND]..."

/-- The operands and options of the program and its tasks. -/
def Topic.lists : Topic → List HelpList
  | program =>
    [⟨"Commands",
        [("diff", diff.about), ("symbols", symbols.about), ("batch", batch.about),
          ("help", help.about)]⟩,
      ⟨"Options", [levelItem, formatItem, helpItem, ("-V, --version", "Print version")]⟩]
  | diff =>
    [⟨"Arguments",
        [("<OLD>", "The reference binary"),
          ("<NEW>", "The binary to check against the reference")]⟩,
      ⟨"Options",
        [levelItem, rulesItem, formatItem, noDefaultItem,
          ("    --show-suppressed", "List suppressed changes too"),
          ("    --no-unreferenced-symbols", "Do not compare symbols that no declaration refers to"),
          ("    --no-show-locs", "Do not print declaration sites"), helpItem]⟩]
  | symbols =>
    [⟨"Arguments", [("<BINARY>", "Path to the ELF binary")]⟩,
      ⟨"Options",
        [("    --functions", "Only function symbols"), levelItem, formatItem,
          ("    --variables", "Only variable symbols"),
          ("    --undefined", "Undefined symbols instead of exported ones"),
          ("    --all", "Every symbol, exported or not"), helpItem]⟩]
  | batch =>
    [⟨"Arguments", [("<OLD:NEW>...", "Pairs to compare, as OLD:NEW")]⟩,
      ⟨"Options", [levelItem, rulesItem, formatItem, noDefaultItem, helpItem]⟩]
  | help => [⟨"Arguments", [("[COMMAND]...", "Print help for the subcommand(s)")]⟩]

/-- The help text about something. -/
def Topic.helpText (topic : Topic) : HelpText := ⟨topic.about, topic.usage, topic.lists⟩

/-- The line about the version of the program. -/
def versionLine : String := "abicomp 0.0.0\n"

end Abiscope.Command
