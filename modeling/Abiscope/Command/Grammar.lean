/-!
# Arguments of a command

Arguments are options and operands in any order. An option is given by its long name behind two dashes
or by its letter behind one. The value of an option follows it as the next argument, or behind an equals
sign, or directly behind a letter. Two dashes alone end the options. Whatever is wrong is found from left
to right, and so is a request for help.
-/

namespace Abiscope.Command

/-- An option that a command knows. -/
structure Flag where
  long : String
  short : Option Char := none
  /-- The values that are accepted, if the option has a value. -/
  accepts : Option (String → Bool) := none
  isRepeatable : Bool := false

/-- Why reading arguments ends before their end. -/
inductive Stop where
  | refused
  | help
  | version
deriving DecidableEq, Repr

/-- The options and operands that were given, in their order. An option without a value has an empty
one. -/
structure Given where
  options : List (String × String) := []
  operands : List String := []
deriving DecidableEq, Repr

namespace Given

def has (given : Given) (long : String) : Bool := given.options.any (·.1 == long)

/-- The values of an option. -/
def values (given : Given) (long : String) : List String :=
  given.options.filterMap fun entry => if entry.1 == long then some entry.2 else none

/-- Adds an option. Some options can be given only once, and values have to be accepted. -/
def addOption (given : Given) (flag : Flag) (value : String) : Except Stop Given :=
  if !flag.isRepeatable && given.has flag.long then .error .refused
  else if (flag.accepts.getD fun _ => true) value then
    .ok { given with options := given.options ++ [(flag.long, value)] }
  else .error .refused

end Given

/-- What a command knows: its options, and which operands it takes at which place. -/
structure Grammar where
  flags : List Flag
  takes : Nat → String → Bool
  /-- Whether the first operand ends the reading. -/
  stopsAtOperand : Bool := false
  hasVersion : Bool := false

namespace Grammar

/-- The text before the first equals sign, and the text behind it if there is one. -/
def splitValue (text : List Char) : String × Option String :=
  (String.ofList (text.takeWhile (· != '=')),
    match text.dropWhile (· != '=') with
    | [] => none
    | _ :: value => some (String.ofList value))

/-- An option at the head of an argument: the option and its value if the argument holds it, or a
request for something else. -/
def ofLong (grammar : Grammar) (text : List Char) : Except Stop (Flag × Option String) :=
  let (name, value) := splitValue text
  let plain (stop : Stop) : Except Stop (Flag × Option String) :=
    .error (if value.isNone then stop else .refused)
  if name == "help" then plain .help
  else if name == "version" && grammar.hasVersion then plain .version
  else
    match grammar.flags.find? (·.long == name) with
    | none => .error .refused
    | some flag =>
      if flag.accepts.isNone && value.isSome then .error .refused else .ok (flag, value)

/-- The option of a letter, with its value if it stands in the same argument. Options of letters all
have values. -/
def ofLetter (grammar : Grammar) : List Char → Except Stop (Flag × Option String)
  | [] => .error .refused
  | letter :: rest =>
    if letter == 'h' then .error .help
    else if letter == 'V' && grammar.hasVersion then .error .version
    else
      match grammar.flags.find? (·.short == some letter) with
      | none => .error .refused
      | some flag =>
        let value := match rest with
          | '=' :: value => value
          | value => value
        .ok (flag, if rest.isEmpty then none else some (String.ofList value))

/-- Whether an argument is an option rather than a value or operand. -/
def isOption (argument : String) : Bool := argument.startsWith "-" && argument != "-"

/-- The option that an argument gives. -/
def option (grammar : Grammar) (argument : String) : Except Stop (Flag × Option String) :=
  match argument.toList with
  | '-' :: '-' :: text => grammar.ofLong text
  | '-' :: text => grammar.ofLetter text
  | _ => .error .refused

/-- Takes in an operand. -/
def addOperand (grammar : Grammar) (given : Given) (operand : String) : Except Stop Given :=
  if grammar.takes given.operands.length operand then
    .ok { given with operands := given.operands ++ [operand] }
  else .error .refused

/-- Whether the reading ends in front of arguments, at an operand. -/
def endsBefore (grammar : Grammar) (arguments : List String) : Bool :=
  grammar.stopsAtOperand && arguments.head?.any fun argument => !isOption argument

/-- Reads arguments from left to right. What is left is there only if the first operand ends the
reading. A value that is an argument of its own right in front of that operand is judged only after
what is left, so what was given comes with a verdict. -/
def read (grammar : Grammar) (given : Given) :
    List String → Except Stop (Except Stop Given × List String)
  | [] => .ok (.ok given, [])
  | argument :: rest =>
    if argument == "--" then do
      return (.ok (← rest.foldlM grammar.addOperand given), [])
    else if !isOption argument then
      if grammar.stopsAtOperand then .ok (.ok given, argument :: rest)
      else do
        grammar.read (← grammar.addOperand given argument) rest
    else do
      let (flag, attached) ← grammar.option argument
      match attached, flag.accepts, rest with
      | some value, _, rest => grammar.read (← given.addOption flag value) rest
      | none, none, rest => grammar.read (← given.addOption flag "") rest
      | none, some _, value :: rest =>
        if isOption value then throw .refused
        if grammar.endsBefore rest then return (given.addOption flag value, rest)
        grammar.read (← given.addOption flag value) rest
      | none, some _, [] => throw .refused

end Grammar

end Abiscope.Command
