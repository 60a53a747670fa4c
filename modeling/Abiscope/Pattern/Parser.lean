import Abiscope.Pattern.Expression
import Abiscope.Unicode.Properties

/-!
# Reading pattern text

Text that is no pattern is refused as a whole. With the option to ignore space, blanks and comments may
stand between the elements of a pattern; the option holds to the end of the group in which it is
switched on.

The readers of nested forms count steps down from the length of the text. Every step reads a
character, so the count never runs out before the text does.
-/

namespace Abiscope.Pattern

/-- What is left to read, whether space is ignored here, and the names that groups have so far. -/
structure Reading where
  rest : List Char
  ignoresSpace : Bool := false
  groupNames : List (List Char) := []

abbrev Parser := StateT Reading Option

namespace Parser

def refuse {α : Type} : Parser α := fun _ => none

/-- Refuses the text unless a condition holds. -/
def require (condition : Bool) : Parser Unit := if condition then pure () else refuse

def peek : Parser (Option Char) := return (← get).rest.head?

/-- Moves over a number of characters. -/
def advance (count : Nat) : Parser Unit :=
  modify fun reading => { reading with rest := reading.rest.drop count }

/-- The next character, which has to be there. -/
def next : Parser Char := do
  let some c ← peek | refuse
  advance 1
  return c

/-- Whether the text goes on with the given characters, which are then read. -/
def accept (expected : String) : Parser Bool := do
  if expected.toList.isPrefixOf (← get).rest then
    advance expected.length
    return true
  else return false

/-- Drops blanks and comments. -/
def dropSpace (inComment : Bool) : List Char → List Char
  | [] => []
  | c :: rest =>
    if inComment then dropSpace (c != '\n') rest
    else if Unicode.Flag.space.contains c then dropSpace false rest
    else if c == '#' then dropSpace true rest
    else c :: rest

/-- Moves over space where it is ignored. -/
def skipSpace : Parser Unit :=
  modify fun reading =>
    if reading.ignoresSpace then { reading with rest := dropSpace false reading.rest } else reading

/-- The first character behind blanks and a comment sign. -/
def firstBehindSpace (inComment : Bool) : List Char → Option Char
  | [] => none
  | c :: rest =>
    if Unicode.Flag.space.contains c then firstBehindSpace inComment rest
    else if !inComment && c == '#' then firstBehindSpace true rest
    else some c

/-- The character behind the next one, looking past ignored space. -/
def peekBehindNext : Parser (Option Char) := do
  let reading ← get
  let rest := reading.rest.drop 1
  if reading.ignoresSpace then return firstBehindSpace false rest <|> rest.head?
  else return rest.head?

/-- Moves over a character and ignored space. The text has to go on. -/
def advanceWithin : Parser Unit := do
  advance 1
  skipSpace
  require (← peek).isSome

/-- Reads characters of a kind with ignored space between them, at most as many as are left. -/
def spacedRun (kind : Char → Bool) : (rounds : Nat) → Parser (List Char)
  | 0 => return []
  | rounds + 1 => do
    match ← peek with
    | some c =>
      if kind c then
        advance 1
        skipSpace
        return c :: (← spacedRun kind rounds)
      else return []
    | none => return []

/-- Reads all characters of a kind that stand here, ignored space between them. -/
def run (kind : Char → Bool) : Parser (List Char) := do
  spacedRun kind (← get).rest.length

/-! ## Repetition -/

/-- A decimal number below 2^32. Blanks may stand around it. -/
def decimal : Parser (Option Nat) := do
  modify fun reading => { reading with rest := reading.rest.dropWhile Unicode.Flag.space.contains }
  let digits ← run Char.isDigit
  let _ ← run Unicode.Flag.space.contains
  if digits.isEmpty then return none
  let value := Nat.ofDigitChars 10 digits 0
  require (value < UInt32.size)
  return some value

/-- The bounds between braces, of which the first is mandatory. -/
def bounds : Parser (Nat × Option Nat) := do
  advanceWithin
  let first ← decimal
  if (← peek) == some ',' then
    advanceWithin
    if (← peek) == some '}' then
      let some least := first | refuse
      return (least, none)
    else
      let some least := first | refuse
      let some most ← decimal | refuse
      return (least, some most)
  else
    let some least := first | refuse
    return (least, some least)

/-- What can be repeated: anything but nothing and options. -/
def isRepeatable : Expr → Bool
  | .empty | .switches _ => false
  | _ => true

/-- Reads the repetition sign here and applies it to the last item. A question mark behind the sign
asks for as few rounds as possible, which does not change whether a text matches. -/
def repetition (items : List Expr) : Parser (List Expr) := do
  match items with
  | [] => refuse
  | item :: others =>
    require (isRepeatable item)
    match ← peek with
    | some '{' =>
      let (least, most) ← bounds
      require ((← peek) == some '}' && most.all (least ≤ ·))
      advance 1
      skipSpace
      let _ ← accept "?"
      return .repetition item least most :: others
    | some sign =>
      advance 1
      let _ ← accept "?"
      return match sign with
        | '?' => .repetition item 0 (some 1) :: others
        | '*' => .repetition item 0 none :: others
        | _ => .repetition item 1 none :: others
    | none => refuse

/-! ## Escapes -/

def isHexDigit (c : Char) : Bool :=
  c.isDigit || ('a' ≤ c && c ≤ 'f') || ('A' ≤ c && c ≤ 'F')

/-- The character of a code point written in hexadecimal digits. -/
def codePoint (digits : List Char) : Parser Char := do
  let value := Unicode.CharSet.numeral digits
  require (value.isValidChar && !digits.isEmpty)
  return Char.ofNat value

/-- A code point with a fixed number of digits, or any number of them between braces. -/
def hexLiteral (kind : Char) : Parser Literal := do
  let width := match kind with
    | 'x' => 2
    | 'u' => 4
    | _ => 8
  advanceWithin
  if (← peek) == some '{' then
    advance 1
    skipSpace
    let digits ← run isHexDigit
    require ((← peek) == some '}')
    advance 1
    skipSpace
    return ⟨← codePoint digits, false⟩
  else
    let digits ← spacedRun isHexDigit width
    require (digits.length == width)
    return ⟨← codePoint digits, kind == 'x'⟩

/-- Splits text at the first place where a mark stands. -/
def splitAtMark (mark : List Char) : List Char → Option (List Char × List Char)
  | [] => none
  | c :: rest =>
    if mark.isPrefixOf (c :: rest) then some ([], (c :: rest).drop mark.length)
    else (splitAtMark mark rest).map fun (before, after) => (c :: before, after)

/-- What stands between the braces of a property class. All three signs between a name and a value mean
the same: only the letter in front of the braces turns a class round. -/
def propertyQuery (text : List Char) : PropertyQuery :=
  match splitAtMark ['!', '='] text <|> splitAtMark [':'] text <|> splitAtMark ['='] text with
  | some (name, value) => .valued (String.ofList name) (String.ofList value)
  | none => .named (String.ofList text)

/-- A property class, given by one letter or between braces. -/
def propertyClass (negated : Bool) : Parser ClassExpr := do
  advanceWithin
  if (← peek) == some '{' then
    advance 1
    skipSpace
    let text ← run (· != '}')
    require ((← peek) == some '}')
    advance 1
    return .property (propertyQuery text) negated
  else
    let some c ← peek | refuse
    require (c != '\\')
    advance 1
    skipSpace
    return .property (.named (String.singleton c)) negated

/-- Characters that stand for themselves behind a backslash: all signs of ASCII but the angle
brackets, which mark the ends of words. -/
def isEscapable (c : Char) : Bool :=
  c.toNat < 0x80 && !c.isAlphanum && c != '<' && c != '>'

/-- A word boundary may say between braces which side of a word it means. -/
def boundary : Parser Anchor := do
  let before ← get
  if !(← accept "\x7b") then return .wordBoundary
  skipSpace
  let isLetter (c : Char) := c.isAlpha || c == '-'
  let some first ← peek | refuse
  if !isLetter first then
    set before
    return .wordBoundary
  let name ← run isLetter
  require ((← peek) == some '}')
  advance 1
  match String.ofList name with
  | "start" => return .wordStart
  | "end" => return .wordEnd
  | "start-half" => return .wordStartHalf
  | "end-half" => return .wordEndHalf
  | _ => refuse

/-- What an escape stands for. -/
inductive Escape where
  | literal (literal : Literal)
  | charClass (body : ClassExpr)
  | anchor (anchor : Anchor)

/-- Reads an escape at its backslash. -/
def escape : Parser Escape := do
  advance 1
  let some c ← peek | refuse
  match c with
  | 'x' | 'u' | 'U' => return .literal (← hexLiteral c)
  | 'p' => return .charClass (← propertyClass false)
  | 'P' => return .charClass (← propertyClass true)
  | _ =>
    advance 1
    match c with
    | 'd' => return .charClass (.shorthand .digit false)
    | 'D' => return .charClass (.shorthand .digit true)
    | 's' => return .charClass (.shorthand .space false)
    | 'S' => return .charClass (.shorthand .space true)
    | 'w' => return .charClass (.shorthand .word false)
    | 'W' => return .charClass (.shorthand .word true)
    | 'a' => return .literal ⟨'\x07', false⟩
    | 'f' => return .literal ⟨'\x0c', false⟩
    | 't' => return .literal ⟨'\t', false⟩
    | 'n' => return .literal ⟨'\n', false⟩
    | 'r' => return .literal ⟨'\r', false⟩
    | 'v' => return .literal ⟨'\x0b', false⟩
    | 'A' => return .anchor .textStart
    | 'z' => return .anchor .textEnd
    | 'b' => return .anchor (← boundary)
    | 'B' => return .anchor .notWordBoundary
    | '<' => return .anchor .wordStart
    | '>' => return .anchor .wordEnd
    | _ =>
      require (isEscapable c)
      return .literal ⟨c, false⟩

/-! ## Classes -/

/-- The classes that go by a name between colons. -/
def asciiClassNames : List String :=
  ["alnum", "alpha", "ascii", "blank", "cntrl", "digit", "graph", "lower", "print", "punct", "space",
    "upper", "word", "xdigit"]

/-- A class of ASCII characters by its name. Anything else that opens with a bracket is left unread. -/
def asciiClass : Parser (Option ClassExpr) := do
  let before ← get
  if ← accept "[:" then
    let negated ← accept "^"
    let name := (← get).rest.takeWhile (· != ':')
    advance name.length
    if (← accept ":]") && asciiClassNames.contains (String.ofList name) then
      return some (.ascii (String.ofList name) negated)
  set before
  return none

/-- An element of a class that is not bracketed itself. -/
def classItem : Parser ClassExpr := do
  if (← peek) == some '\\' then
    match ← escape with
    | .literal literal => return .literal literal
    | .charClass body => return body
    | .anchor _ => refuse
  else return .literal ⟨← next, false⟩

/-- An element of a class, or a range of characters. A hyphen before a closing bracket stands for
itself, and two hyphens are an operator. -/
def classRange : Parser ClassExpr := do
  let first ← classItem
  skipSpace
  require (← peek).isSome
  let behind ← peekBehindNext
  if (← peek) != some '-' || behind == some ']' || behind == some '-' then return first
  advanceWithin
  match first, ← classItem with
  | .literal low, .literal high =>
    require (low.char ≤ high.char)
    return .range low high
  | _, _ => refuse

/-- The operator written with two equal signs here, which are then read. -/
def classOperator : Parser (Option ClassOperator) := do
  if ← accept "&&" then return some .intersection
  else if ← accept "--" then return some .difference
  else if ← accept "~~" then return some .symmetricDifference
  else return none

/-- Reads hyphens at the start of a class, which stand for themselves. -/
def leadingHyphens : (rounds : Nat) → Parser (List ClassExpr)
  | 0 => return []
  | rounds + 1 => do
    if (← peek) == some '-' then
      advanceWithin
      return .literal ⟨'-', false⟩ :: (← leadingHyphens rounds)
    else return []

/-- The opening bracket of a class, whether it is negated, and what stands for itself only there:
hyphens, or else a closing bracket. -/
def openClass : Parser (Bool × List ClassExpr) := do
  advanceWithin
  let negated := (← peek) == some '^'
  if negated then advanceWithin
  let hyphens ← leadingHyphens (← get).rest.length
  if hyphens.isEmpty && (← peek) == some ']' then
    advanceWithin
    return (negated, [.literal ⟨']', false⟩])
  else return (negated, hyphens)

/-- Combines what stands left of an operator with what stands right of it. Operators bind from left to
right. -/
def combine (left : Option (ClassOperator × ClassExpr)) (items : List ClassExpr) : ClassExpr :=
  let right := ClassExpr.ofItems items.reverse
  match left with
  | none => right
  | some (operator, left) => .combined operator left right

/-- Reads the elements of a class up to its closing bracket. `left` is what stands left of the last
operator, and `items` are the elements since, last first. -/
def classBody : (fuel : Nat) → Option (ClassOperator × ClassExpr) → List ClassExpr → Parser ClassExpr
  | 0, _, _ => refuse
  | fuel + 1, left, items => do
    skipSpace
    match ← peek with
    | none => refuse
    | some '[' =>
      match ← asciiClass with
      | some named => classBody fuel left (named :: items)
      | none =>
        let (negated, opening) ← openClass
        let inner ← classBody fuel none opening
        classBody fuel left (.bracketed inner negated :: items)
    | some ']' =>
      advance 1
      return combine left items
    | some _ =>
      match ← classOperator with
      | some operator => classBody fuel (some (operator, combine left items)) []
      | none => classBody fuel left ((← classRange) :: items)

/-! ## Groups -/

/-- The option that a letter stands for. -/
def switch? : Char → Option Switch
  | 'i' => some .ignoreCase
  | 'm' => some .multiLine
  | 's' => some .dotMatchesLineEnd
  | 'U' => some .swapGreed
  | 'u' => some .unicode
  | 'R' => some .carriageReturns
  | 'x' => some .ignoreSpace
  | _ => none

/-- The options that letters stand for. One minus sign may turn to switching off, if a letter follows
it, and no letter comes twice. -/
def switchesOf? (text : List Char) : Option Switches := do
  let on := text.takeWhile (· != '-')
  let off := (text.dropWhile (· != '-')).drop 1
  let on ← on.mapM switch?
  let off ← if text.contains '-' && off.isEmpty then none else off.mapM switch?
  if (on ++ off).Nodup then some (on.map (·, true) ++ off.map (·, false)) else none

/-- The last setting of the option to ignore space among options, if any. -/
def spaceSetting? (switches : Switches) : Option Bool :=
  (switches.reverse.find? fun entry => entry.1 == .ignoreSpace).map Prod.snd

/-- The characters that the name of a group may open with. -/
def nameStart : Unicode.CharSet :=
  (Unicode.Flag.set "alphabetic").union (Unicode.CharSet.singleton '_')

/-- The characters that may follow in the name of a group. -/
def nameRest : Unicode.CharSet :=
  (['.', '[', ']'].map Unicode.CharSet.singleton ++
    ["nd", "nl", "no"].map Unicode.Category.basicSet).foldl Unicode.CharSet.union nameStart

/-- The name of a group up to the closing angle bracket. No two groups share one. -/
def groupName : Parser Unit := do
  let reading ← get
  let name := reading.rest.takeWhile (· != '>')
  match name with
  | [] => refuse
  | first :: others =>
    require (nameStart.contains first && others.all nameRest.contains)
    require (reading.rest.length > name.length && !reading.groupNames.contains name)
    set { reading with
      rest := reading.rest.drop (name.length + 1)
      groupNames := name :: reading.groupNames }

/-- What an opening parenthesis begins: options for what follows, or a group with options. -/
inductive Opening where
  | switches (switches : Switches)
  | group (switches : Switches)

/-- Reads what an opening parenthesis begins. Looking around is not supported. -/
def openGroup : Parser Opening := do
  advance 1
  skipSpace
  let rest := (← get).rest
  require (!(["?=", "?!", "?<=", "?<!"].any fun mark => mark.toList.isPrefixOf rest))
  if (← accept "?P<") || (← accept "?<") then
    groupName
    return .group []
  else if ← accept "?" then
    let text := (← get).rest.takeWhile fun c => c != ':' && c != ')'
    advance text.length
    let some switches := switchesOf? text | refuse
    if (← next) == ')' then
      require (!text.isEmpty)
      return .switches switches
    else return .group switches
  else return .group []

/-- Reads branches up to a closing parenthesis or the end. `branches` are the finished branches and
`items` the items of the current one, last first. -/
def branches : (fuel : Nat) → List Expr → List Expr → Parser Expr
  | 0, _, _ => refuse
  | fuel + 1, finished, items => do
    skipSpace
    match ← peek with
    | none | some ')' =>
      return Expr.ofBranches (Expr.ofItems items.reverse :: finished).reverse
    | some '|' =>
      advance 1
      branches fuel (Expr.ofItems items.reverse :: finished) []
    | some '(' =>
      let outer := (← get).ignoresSpace
      match ← openGroup with
      | .switches switches =>
        modify fun reading =>
          { reading with ignoresSpace := (spaceSetting? switches).getD reading.ignoresSpace }
        branches fuel finished (.switches switches :: items)
      | .group switches =>
        modify fun reading => { reading with ignoresSpace := (spaceSetting? switches).getD outer }
        let body ← branches fuel [] []
        require ((← peek) == some ')')
        advance 1
        modify fun reading => { reading with ignoresSpace := outer }
        branches fuel finished (.group switches body :: items)
    | some '[' =>
      let (negated, opening) ← openClass
      let body ← classBody fuel none opening
      branches fuel finished (.charClass (.bracketed body negated) :: items)
    | some '?' | some '*' | some '+' | some '{' => branches fuel finished (← repetition items)
    | some '\\' =>
      match ← escape with
      | .literal literal => branches fuel finished (.literal literal :: items)
      | .charClass body => branches fuel finished (.charClass body :: items)
      | .anchor anchor => branches fuel finished (.anchor anchor :: items)
    | some c =>
      advance 1
      match c with
      | '.' => branches fuel finished (.dot :: items)
      | '^' => branches fuel finished (.anchor .lineStart :: items)
      | '$' => branches fuel finished (.anchor .lineEnd :: items)
      | _ => branches fuel finished (.literal ⟨c, false⟩ :: items)

end Parser

/-- Reads a pattern. The whole text has to be used, and nesting is limited. -/
def Expr.ofText? (text : String) : Option Expr := do
  let chars := text.toList
  let (expr, reading) ← Parser.branches (chars.length + 1) [] [] ⟨chars, false, []⟩
  if reading.rest.isEmpty && expr.depth ≤ depthLimit then some expr else none

end Abiscope.Pattern
