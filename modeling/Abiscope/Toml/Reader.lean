import Abiscope.Text.Hexadecimal
import Abiscope.Toml.Value

/-!
# Reading configuration text

The text is read line by line: properties, headers of array elements, comments and blank lines. Headers
of single tables are refused, because no property is a table. Text that is malformed anywhere is refused
as a whole. Readers of nested values count steps down from the
length of the text; every step reads a character, so the count never runs out before the text does.
-/

namespace Abiscope.Toml

/-- Readers hold the text that is left. -/
abbrev Reader := StateT (List Char) Option

namespace Reader

def refuse {α : Type} : Reader α := fun _ => none

def require (condition : Bool) : Reader Unit := if condition then pure () else refuse

def peek : Reader (Option Char) := return (← get).head?

/-- Whether the text goes on with the given characters, which are then read. -/
def accept (expected : String) : Reader Bool := do
  let rest ← get
  if expected.toList.isPrefixOf rest then
    set (rest.drop expected.length)
    return true
  else return false

/-- Reads the given characters, which have to be there. -/
def expect (expected : String) : Reader Unit := do require (← accept expected)

/-- Reads all characters of a kind that stand here. -/
def run (kind : Char → Bool) : Reader (List Char) := do
  let rest ← get
  set (rest.dropWhile kind)
  return rest.takeWhile kind

def isBlank (c : Char) : Bool := c == ' ' || c == '\t'

def skipBlanks : Reader Unit := do let _ ← run isBlank

/-- Characters that may stand in comments: tabs and everything that is no control character. -/
def isPlain (c : Char) : Bool := c == '\t' || (0x20 ≤ c.toNat && c.toNat != 0x7f)

/-- Skips a comment, if there is one. -/
def skipComment : Reader Unit := do
  if ← accept "#" then
    let _ ← run isPlain

/-- Whether a line ends here. -/
def lineEnd : Reader Bool := do
  if ← accept "\n" then return true
  else accept "\x0d\n"

/-- Skips the rest of a line, which may hold only blanks and a comment. -/
def finishLine : Reader Unit := do
  skipBlanks
  skipComment
  if !(← get).isEmpty then require (← lineEnd)

/-- Skips blanks, comments and the ends of lines. -/
def skipLines : (rounds : Nat) → Reader Unit
  | 0 => return ()
  | rounds + 1 => do
    skipBlanks
    skipComment
    if ← lineEnd then skipLines rounds

/-- The character of a code point in hexadecimal digits. -/
def codePoint? (digits : List Char) : Option Char := do
  let values ← digits.mapM Text.hexValue?
  let value := values.foldl (fun value digit => value * 16 + digit) 0
  if value.isValidChar then some (Char.ofNat value) else none

/-- The character that an escape stands for, read behind its backslash. -/
def escape : Reader Char := do
  match ← get with
  | 'b' :: rest => set rest; return '\x08'
  | 't' :: rest => set rest; return '\t'
  | 'n' :: rest => set rest; return '\n'
  | 'f' :: rest => set rest; return '\x0c'
  | 'r' :: rest => set rest; return '\r'
  | '"' :: rest => set rest; return '"'
  | '\\' :: rest => set rest; return '\\'
  | 'u' :: rest =>
    set (rest.drop 4)
    let some c := codePoint? (rest.take 4) | refuse
    require (rest.length ≥ 4)
    return c
  | 'U' :: rest =>
    set (rest.drop 8)
    let some c := codePoint? (rest.take 8) | refuse
    require (rest.length ≥ 8)
    return c
  | _ => refuse

/-- Text between double quotes, behind the opening one. -/
def basicText : (fuel : Nat) → Reader (List Char)
  | 0 => refuse
  | fuel + 1 => do
    let plain ← run fun c => isPlain c && c != '"' && c != '\\'
    if ← accept "\"" then return plain
    else
      expect "\\"
      let c ← escape
      return plain ++ c :: (← basicText fuel)

/-- Skips blanks and the ends of lines. -/
def skipBlankLines : (rounds : Nat) → Reader Unit
  | 0 => return ()
  | rounds + 1 => do
    skipBlanks
    if ← lineEnd then skipBlankLines rounds

/-- Skips the line end behind a backslash and everything blank after it, if the line ends here. -/
def skipFolded : Reader Bool := do
  let before ← get
  skipBlanks
  if ← lineEnd then
    skipBlankLines before.length
    return true
  else
    set before
    return false

/-- The quotes that belong to a text of several lines, just before the three that close it: as many as
there are more than three, but at most two. -/
def closingQuotes (quote : Char) : Reader (Option (List Char)) := do
  let rest ← get
  let quotes := (rest.takeWhile (· == quote)).take 5
  if quotes.length ≥ 3 then
    set (rest.drop quotes.length)
    return some (quotes.drop 3)
  else return none

/-- Text of several lines between three double quotes, behind the opening ones. -/
def longBasicText : (fuel : Nat) → Reader (List Char)
  | 0 => refuse
  | fuel + 1 => do
    let plain ← run fun c => isPlain c && c != '"' && c != '\\'
    match ← closingQuotes '"' with
    | some quotes => return plain ++ quotes
    | none =>
      if ← accept "\"" then return plain ++ '"' :: (← longBasicText fuel)
      else if ← lineEnd then return plain ++ '\n' :: (← longBasicText fuel)
      else
        expect "\\"
        if ← skipFolded then return plain ++ (← longBasicText fuel)
        else
          let c ← escape
          return plain ++ c :: (← longBasicText fuel)

/-- Text between single quotes, behind the opening one. Nothing is escaped in it. -/
def literalText : Reader (List Char) := do
  let plain ← run fun c => isPlain c && c != '\''
  expect "'"
  return plain

/-- Text of several lines between three single quotes, behind the opening ones. -/
def longLiteralText : (fuel : Nat) → Reader (List Char)
  | 0 => refuse
  | fuel + 1 => do
    let plain ← run fun c => isPlain c && c != '\''
    match ← closingQuotes '\'' with
    | some quotes => return plain ++ quotes
    | none =>
      if ← accept "'" then return plain ++ '\'' :: (← longLiteralText fuel)
      else
        require (← lineEnd)
        return plain ++ '\n' :: (← longLiteralText fuel)

/-- Text in any kind of quotes, if quotes open here. A line end right behind three quotes is dropped. -/
def quotedText? : Reader (Option String) := do
  let fuel := (← get).length + 1
  if ← accept "\"\"\"" then
    let _ ← lineEnd
    return some (String.ofList (← longBasicText fuel))
  else if ← accept "'''" then
    let _ ← lineEnd
    return some (String.ofList (← longLiteralText fuel))
  else if ← accept "\"" then return some (String.ofList (← basicText fuel))
  else if ← accept "'" then return some (String.ofList (← literalText))
  else return none

/-- Whether some characters are given and each underscore among them stands alone between two others. -/
def isGrouped : List Char → Bool
  | [] => false
  | '_' :: _ => false
  | [_] => true
  | _ :: '_' :: rest => isGrouped rest
  | _ :: rest => isGrouped rest

/-- Digits with single underscores between them. -/
def digits (isDigit : Char → Bool) : Reader (List Char) := do
  let written ← run fun c => isDigit c || c == '_'
  require (isGrouped written)
  return written.filter (· != '_')

/-- The value of digits in some base. -/
def valueOf (base : Nat) (digits : List Char) : Nat :=
  digits.foldl (fun value c => value * base + (Text.hexValue? c).getD 0) 0

/-- A whole number that fits into a signed word of 64 bits. -/
def signedWord (value : Int) : Reader Value := do
  require (Int64.minValue.toInt ≤ value && value ≤ Int64.maxValue.toInt)
  return .integer value

/-- A whole number: decimal, perhaps with a sign, or without a sign in one of three other bases. -/
def integer : Reader Value := do
  let isHex (c : Char) := (Text.hexValue? c).isSome
  if ← accept "0x" then signedWord (valueOf 16 (← digits isHex))
  else if ← accept "0o" then signedWord (valueOf 8 (← digits fun c => '0' ≤ c && c ≤ '7'))
  else if ← accept "0b" then signedWord (valueOf 2 (← digits fun c => c == '0' || c == '1'))
  else
    let negative ← accept "-"
    if !negative then
      let _ ← accept "+"
    let written ← digits Char.isDigit
    require (written.length == 1 || written.head? != some '0')
    let value : Int := valueOf 10 written
    signedWord (if negative then -value else value)

/-- A key: letters, digits, hyphens and underscores, or text in single or double quotes. -/
def key : Reader String := do
  let fuel := (← get).length + 1
  if ← accept "\"" then return String.ofList (← basicText fuel)
  else if ← accept "'" then return String.ofList (← literalText)
  else
    let bare ← run fun c => c.isAlphanum || c == '-' || c == '_'
    require (!bare.isEmpty)
    return String.ofList bare

mutual

/-- A value. `total` is the length of the whole text. -/
def value (total fuel : Nat) : Reader Value := do
  match fuel with
  | 0 => refuse
  | fuel + 1 =>
    match ← quotedText? with
    | some content => return .text content
    | none =>
      if ← accept "true" then return .boolean true
      else if ← accept "false" then return .boolean false
      else if ← accept "[" then
        skipLines (← get).length
        return .array (← elements total fuel)
      else if ← accept "\x7b" then
        skipBlanks
        if ← accept "\x7d" then return .table []
        return .table (← entries total fuel [])
      else integer

/-- The elements of an array up to its closing bracket. A comma may follow the last one. -/
def elements (total fuel : Nat) : Reader (List (Nat × Value)) := do
  match fuel with
  | 0 => refuse
  | fuel + 1 =>
    if ← accept "]" then return []
    let start := total - (← get).length
    let first ← value total fuel
    skipLines (← get).length
    if ← accept "," then
      skipLines (← get).length
      return (start, first) :: (← elements total fuel)
    else
      expect "]"
      return [(start, first)]

/-- The entries of a table on one line up to its closing brace. No key comes twice. -/
def entries (total fuel : Nat) (before : List (String × Value)) : Reader (List (String × Value)) := do
  match fuel with
  | 0 => refuse
  | fuel + 1 =>
    let name ← key
    skipBlanks
    expect "="
    skipBlanks
    let content ← value total fuel
    require (before.all (·.1 != name))
    let all := before ++ [(name, content)]
    skipBlanks
    if ← accept "," then
      skipBlanks
      entries total fuel all
    else
      expect "\x7d"
      return all

end

/-- The keys of a path, with dots between them. -/
def path : (fuel : Nat) → Reader (List String)
  | 0 => refuse
  | fuel + 1 => do
    skipBlanks
    let first ← key
    skipBlanks
    if ← accept "." then return first :: (← path fuel)
    else return [first]

/-- A line that says something. -/
def line (total : Nat) : Reader Line := do
  let length := (← get).length
  if ← accept "[[" then
    let keys ← path (length + 1)
    expect "]]"
    return .element keys (total - length)
  else
    let name ← key
    skipBlanks
    expect "="
    skipBlanks
    return .property name (← value total (length + 1))

/-- All lines that say something. -/
def lines (total : Nat) : (fuel : Nat) → Reader (List Line)
  | 0 => refuse
  | fuel + 1 => do
    skipLines (← get).length
    if (← get).isEmpty then return []
    let first ← line total
    finishLine
    return first :: (← lines total fuel)

end Reader

/-- The lines of a text. A byte order mark at its start is skipped. -/
def linesOf? (text : String) : Option (List Line) :=
  let chars := match text.toList with
    | '\ufeff' :: rest => rest
    | chars => chars
  (Reader.lines chars.length (chars.length + 1) chars).map Prod.fst

end Abiscope.Toml
