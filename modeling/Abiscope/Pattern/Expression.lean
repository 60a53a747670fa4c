/-!
# Pattern text as a tree

What a pattern says before options are applied to it. Options such as ignoring case are themselves
elements of a pattern and hold from where they stand to the end of the group around them.
-/

namespace Abiscope.Pattern

/-- The options that a pattern can switch. -/
inductive Switch where
  | ignoreCase
  | multiLine
  | dotMatchesLineEnd
  | swapGreed
  | unicode
  | carriageReturns
  | ignoreSpace
deriving DecidableEq, Repr

/-- Options to switch on and off, in their order. -/
abbrev Switches := List (Switch × Bool)

/-- A condition as it is written. -/
inductive Anchor where
  | lineStart
  | lineEnd
  | textStart
  | textEnd
  | wordBoundary
  | notWordBoundary
  | wordStart
  | wordEnd
  | wordStartHalf
  | wordEndHalf
deriving DecidableEq, Repr

/-- The classes with a letter of their own. -/
inductive Shorthand where
  | digit
  | space
  | word
deriving DecidableEq, Repr

/-- What a property class asks for: a property by its name, or a value of a property. -/
inductive PropertyQuery where
  | named (name : String)
  | valued (name value : String)
deriving DecidableEq, Repr

/-- How two parts of a bracketed class are combined. -/
inductive ClassOperator where
  | intersection
  | difference
  | symmetricDifference
deriving DecidableEq, Repr

/-- A character as it is written. A byte is one given by exactly two hexadecimal digits. -/
structure Literal where
  char : Char
  isByte : Bool := false
deriving DecidableEq, Repr

/-- A class of characters. -/
inductive ClassExpr where
  | literal (literal : Literal)
  | range (low high : Literal)
  | ascii (name : String) (negated : Bool)
  | shorthand (kind : Shorthand) (negated : Bool)
  | property (query : PropertyQuery) (negated : Bool)
  | bracketed (body : ClassExpr) (negated : Bool)
  | union (items : List ClassExpr)
  | combined (operator : ClassOperator) (left right : ClassExpr)

/-- A pattern. -/
inductive Expr where
  | empty
  | switches (switches : Switches)
  | literal (literal : Literal)
  | dot
  | anchor (anchor : Anchor)
  | charClass (body : ClassExpr)
  | repetition (body : Expr) (least : Nat) (most : Option Nat)
  | group (switches : Switches) (body : Expr)
  | concat (items : List Expr)
  | alternation (items : List Expr)

/-- A list of items in sequence. A single item stands for itself. -/
def Expr.ofItems : List Expr → Expr
  | [] => .empty
  | [item] => item
  | items => .concat items

/-- Branches of which one has to match. A single branch stands for itself. -/
def Expr.ofBranches : List Expr → Expr
  | [branch] => branch
  | branches => .alternation branches

/-- Items of a class. A single item stands for itself. -/
def ClassExpr.ofItems : List ClassExpr → ClassExpr
  | [item] => item
  | items => .union items

mutual

/-- How deep the parts of a class are nested. -/
def ClassExpr.depth : ClassExpr → Nat
  | .literal _ | .range _ _ | .ascii _ _ | .shorthand _ _ | .property _ _ => 0
  | .bracketed body _ => body.depth + 1
  | .union [] => 0
  | .union (item :: items) => max item.depth (ClassExpr.depthOfAll items) + 1
  | .combined _ left right => max left.depth right.depth + 1

/-- The greatest depth of several classes. -/
def ClassExpr.depthOfAll : List ClassExpr → Nat
  | [] => 0
  | item :: items => max item.depth (ClassExpr.depthOfAll items)

end

mutual

/-- How deep the parts of a pattern are nested. -/
def Expr.depth : Expr → Nat
  | .empty | .switches _ | .literal _ | .dot | .anchor _ => 0
  | .charClass (.bracketed body _) => body.depth + 1
  | .charClass _ => 0
  | .repetition body _ _ => body.depth + 1
  | .group _ body => body.depth + 1
  | .concat items => Expr.depthOfAll items + 1
  | .alternation items => Expr.depthOfAll items + 1

/-- The greatest depth of several patterns. -/
def Expr.depthOfAll : List Expr → Nat
  | [] => 0
  | item :: items => max item.depth (Expr.depthOfAll items)

end

/-- Patterns nest at most this deep. -/
def depthLimit : Nat := 250

end Abiscope.Pattern
