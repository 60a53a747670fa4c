import Abiscope.Pattern.Automaton
import Abiscope.Pattern.Expression
import Abiscope.Unicode.Folding
import Abiscope.Unicode.Scripts

/-!
# What a pattern means

Applying the options to a pattern turns its text into a machine. By default characters are those of
Unicode. With that option off, classes are confined to ASCII, and whatever would match part of a
character is refused: the dot, negated classes, bytes beyond ASCII and properties.

Ignoring case widens a class before it is negated.
-/

namespace Abiscope.Pattern

/-- The options that bear on the meaning of a pattern. -/
structure Options where
  ignoreCase : Bool := false
  multiLine : Bool := false
  dotMatchesLineEnd : Bool := false
  unicode : Bool := true
  carriageReturns : Bool := false

/-- Sets one option. -/
def Options.set (options : Options) (switch : Switch) (on : Bool) : Options :=
  match switch with
  | .ignoreCase => { options with ignoreCase := on }
  | .multiLine => { options with multiLine := on }
  | .dotMatchesLineEnd => { options with dotMatchesLineEnd := on }
  | .unicode => { options with unicode := on }
  | .carriageReturns => { options with carriageReturns := on }
  | .swapGreed | .ignoreSpace => options

/-- Sets several options in their order. -/
def Options.setAll (options : Options) (switches : Switches) : Options :=
  switches.foldl (fun options entry => options.set entry.1 entry.2) options

/-! ## Classes by name -/

/-- The name of a property as it is looked up: without case, blanks, hyphens and underscores, and
without an opening `is`. -/
def propertyName (name : String) : String :=
  let chars := name.toList
  let opensWithIs := match chars with
    | a :: b :: _ => a.toLower == 'i' && b.toLower == 's'
    | _ => false
  let chars := if opensWithIs then chars.drop 2 else chars
  let kept := chars.filter fun c => c.toNat < 0x80 && c != ' ' && c != '-' && c != '_'
  let lower := String.ofList (kept.map Char.toLower)
  if opensWithIs && lower == "c" then "isc" else lower

/-- The class that a property query asks for. A bare name is a property, a general category or a
script, in this order, but three short names are always categories. -/
def PropertyQuery.set? : PropertyQuery → Option Unicode.CharSet
  | .named name =>
    let name := propertyName name
    let property :=
      if name == "cf" || name == "sc" || name == "lc" then none else Unicode.Flag.find? name
    property <|> Unicode.Category.find? name <|> Unicode.Script.find? name
  | .valued name value =>
    let value := propertyName value
    match propertyName name with
    | "gc" | "generalcategory" => Unicode.Category.find? value
    | "sc" | "script" => Unicode.Script.find? value
    | "scx" | "scriptextensions" => Unicode.Script.findUsed? value
    | _ => none

/-- The code points of some ranges. -/
def ranges (bounds : List (Char × Char)) : Unicode.CharSet :=
  Unicode.CharSet.ofIntervals (bounds.map fun bound => ⟨bound.1.toNat, bound.2.toNat⟩)

/-- The classes of ASCII characters that go by a name. -/
def asciiSet : String → Unicode.CharSet
  | "alnum" => ranges [('0', '9'), ('A', 'Z'), ('a', 'z')]
  | "alpha" => ranges [('A', 'Z'), ('a', 'z')]
  | "ascii" => ranges [('\x00', '\x7f')]
  | "blank" => ranges [('\t', '\t'), (' ', ' ')]
  | "cntrl" => ranges [('\x00', '\x1f'), ('\x7f', '\x7f')]
  | "digit" => ranges [('0', '9')]
  | "graph" => ranges [('!', '~')]
  | "lower" => ranges [('a', 'z')]
  | "print" => ranges [(' ', '~')]
  | "punct" => ranges [('!', '/'), (':', '@'), ('[', '\x60'), ('\x7b', '~')]
  | "space" => ranges [('\t', '\r'), (' ', ' ')]
  | "upper" => ranges [('A', 'Z')]
  | "word" => ranges [('0', '9'), ('A', 'Z'), ('_', '_'), ('a', 'z')]
  | "xdigit" => ranges [('0', '9'), ('A', 'F'), ('a', 'f')]
  | _ => Unicode.CharSet.empty

/-- The class behind a letter. -/
def Shorthand.set (unicode : Bool) : Shorthand → Unicode.CharSet
  | .digit => if unicode then Unicode.Flag.digit else asciiSet "digit"
  | .space => if unicode then Unicode.Flag.space else asciiSet "space"
  | .word => if unicode then Unicode.Flag.word else asciiSet "word"

/-! ## Classes -/

/-- Adds the other cases of the members of a class if case is ignored. -/
def Options.widen (options : Options) (set : Unicode.CharSet) : Unicode.CharSet :=
  if !options.ignoreCase then set
  else if options.unicode then Unicode.Folding.close set
  else Unicode.Folding.closeAscii set

/-- Turns a class round. Confined to ASCII, that would match parts of characters. -/
def Options.negate? (options : Options) (negated : Bool) (set : Unicode.CharSet) :
    Option Unicode.CharSet :=
  if !negated then some set
  else if options.unicode then some set.complement
  else none

/-- The character of a literal in a class. -/
def Options.member? (options : Options) (literal : Literal) : Option Char :=
  if options.unicode || literal.char.toNat < 0x80 then some literal.char else none

/-- Applies an operator to two classes. -/
def ClassOperator.apply (operator : ClassOperator) (left right : Unicode.CharSet) : Unicode.CharSet :=
  match operator with
  | .intersection => left.inter right
  | .difference => left.diff right
  | .symmetricDifference => left.symmDiff right

mutual

/-- The characters of a class. -/
def ClassExpr.set? (options : Options) : ClassExpr → Option Unicode.CharSet
  | .literal written => (options.member? written).map Unicode.CharSet.singleton
  | .range low high => do
    return Unicode.CharSet.range (← options.member? low).toNat (← options.member? high).toNat
  | .ascii name negated => options.negate? negated (options.widen (asciiSet name))
  | .shorthand kind negated => options.negate? negated (kind.set options.unicode)
  | .property query negated =>
    if options.unicode then do
      options.negate? negated (options.widen (← query.set?))
    else none
  | .bracketed body negated => do options.negate? negated (options.widen (← body.set? options))
  | .union items => ClassExpr.setOfAll? options items
  | .combined operator left right => do
    return operator.apply (options.widen (← left.set? options)) (options.widen (← right.set? options))

/-- The characters of any of several classes. -/
def ClassExpr.setOfAll? (options : Options) : List ClassExpr → Option Unicode.CharSet
  | [] => some Unicode.CharSet.empty
  | item :: items => do return (← item.set? options).union (← ClassExpr.setOfAll? options items)

end

/-! ## Patterns -/

/-- The machine of a literal. -/
def Options.literal? (options : Options) (literal : Literal) : Option Machine :=
  let alone := Unicode.CharSet.singleton literal.char
  if !options.unicode && literal.isByte && literal.char.toNat > 0x7f then none
  else some (.oneOf (options.widen alone))

/-- The machine of a dot. -/
def Options.dot? (options : Options) : Option Machine :=
  if !options.unicode then none
  else if options.dotMatchesLineEnd then some (.oneOf Unicode.CharSet.all)
  else if options.carriageReturns then some (.oneOf (ranges [('\n', '\n'), ('\r', '\r')]).complement)
  else some (.oneOf (ranges [('\n', '\n')]).complement)

/-- The condition of an anchor. -/
def Options.condition (options : Options) (anchor : Anchor) : Condition :=
  let word := Shorthand.word.set options.unicode
  match anchor with
  | .textStart => .textStart
  | .textEnd => .textEnd
  | .lineStart =>
    if !options.multiLine then .textStart
    else if options.carriageReturns then .anyLineStart
    else .lineStart
  | .lineEnd =>
    if !options.multiLine then .textEnd
    else if options.carriageReturns then .anyLineEnd
    else .lineEnd
  | .wordBoundary => .wordBoundary word
  | .notWordBoundary => .insideOrOutside word
  | .wordStart => .wordStart word
  | .wordEnd => .wordEnd word
  | .wordStartHalf => .notAfterWord word
  | .wordEndHalf => .notBeforeWord word

mutual

/-- The machine of a pattern, and the options that hold behind it. -/
def Expr.machine? (options : Options) : Expr → Option (Machine × Options)
  | .empty => some (.nothing, options)
  | .switches settings => some (.nothing, options.setAll settings)
  | .literal written => (options.literal? written).map (·, options)
  | .dot => options.dot?.map (·, options)
  | .anchor written => some (.check (options.condition written), options)
  | .charClass body => (body.set? options).map fun set => (.oneOf set, options)
  | .repetition body least most => do
    let (machine, options) ← body.machine? options
    return (.repeated machine least most, options)
  | .group settings body => do
    let (machine, _) ← body.machine? (options.setAll settings)
    return (machine, options)
  | .concat items => Expr.sequence? options items
  | .alternation items => Expr.choice? options items

/-- The machine of items in sequence. -/
def Expr.sequence? (options : Options) : List Expr → Option (Machine × Options)
  | [] => some (.nothing, options)
  | item :: items => do
    let (first, options) ← item.machine? options
    let (rest, options) ← Expr.sequence? options items
    return (.both first rest, options)

/-- The machine of branches of which one has to match. -/
def Expr.choice? (options : Options) : List Expr → Option (Machine × Options)
  | [] => some (.oneOf Unicode.CharSet.empty, options)
  | item :: items => do
    let (first, options) ← item.machine? options
    let (rest, options) ← Expr.choice? options items
    return (.either first rest, options)

end

end Abiscope.Pattern
