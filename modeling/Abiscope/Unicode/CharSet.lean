import Abiscope.Text.Hexadecimal

/-!
# Sets of characters

A set of code points is kept as closed intervals in ascending order that neither overlap nor touch.
Membership is a binary search; union sorts and merges, complement takes the gaps, and the other
operations follow from these two.
-/

namespace Abiscope.Unicode

/-- The code points from `low` to `high`, both included. -/
structure Interval where
  low : Nat
  high : Nat
deriving DecidableEq, Repr

/-- A set of code points as ascending intervals with gaps between them. -/
structure CharSet where
  intervals : Array Interval
deriving DecidableEq, Repr

namespace CharSet

/-- The last code point. -/
def lastCodePoint : Nat := 0x10ffff

/-- Joins an interval to the ones behind it when they overlap or touch. -/
def join (first : Interval) : List Interval → List Interval
  | [] => [first]
  | next :: rest =>
    if next.low ≤ first.high + 1 then join ⟨first.low, max first.high next.high⟩ rest
    else first :: join next rest

/-- Any intervals, brought into ascending order and merged. -/
def ofIntervals (intervals : List Interval) : CharSet :=
  let nonempty := intervals.filter fun interval => interval.low ≤ interval.high
  match nonempty.mergeSort fun left right => left.low ≤ right.low with
  | [] => ⟨#[]⟩
  | first :: rest => ⟨(join first rest).toArray⟩

def empty : CharSet := ⟨#[]⟩

/-- Every code point. -/
def all : CharSet := ⟨#[⟨0, lastCodePoint⟩]⟩

/-- The code points between two bounds. -/
def range (low high : Nat) : CharSet := ofIntervals [⟨low, high⟩]

def singleton (c : Char) : CharSet := range c.toNat c.toNat

def union (left right : CharSet) : CharSet :=
  ofIntervals (left.intervals.toList ++ right.intervals.toList)

/-- The gaps of ascending intervals from `start` on. -/
def gaps (start : Nat) : List Interval → List Interval
  | [] => if start ≤ lastCodePoint then [⟨start, lastCodePoint⟩] else []
  | first :: rest =>
    if start < first.low then ⟨start, first.low - 1⟩ :: gaps (first.high + 1) rest
    else gaps (first.high + 1) rest

def complement (set : CharSet) : CharSet := ⟨(gaps 0 set.intervals.toList).toArray⟩

def inter (left right : CharSet) : CharSet := (left.complement.union right.complement).complement

def diff (left right : CharSet) : CharSet := left.inter right.complement

/-- The code points of exactly one of two sets. -/
def symmDiff (left right : CharSet) : CharSet := (left.diff right).union (right.diff left)

/-- Looks for a code point among the intervals from `low` up to `high`, which is not included. -/
def searchBetween (intervals : Array Interval) (codePoint low high : Nat) : Bool :=
  if low < high then
    let middle := (low + high) / 2
    match intervals[middle]? with
    | none => false
    | some interval =>
      if codePoint < interval.low then searchBetween intervals codePoint low middle
      else if interval.high < codePoint then searchBetween intervals codePoint (middle + 1) high
      else true
  else false
termination_by high - low
decreasing_by all_goals omega

def contains (set : CharSet) (c : Char) : Bool :=
  searchBetween set.intervals c.toNat 0 set.intervals.size

/-- The value of a hexadecimal numeral. -/
def numeral (digits : List Char) : Nat :=
  digits.foldl (fun value c => value * 16 + (Text.hexValue? c).getD 0) 0

/-- Reads a table entry: one code point, or two with a hyphen between them. -/
def intervalOfText (text : String) : Interval :=
  let digits := text.toList
  let low := numeral (digits.takeWhile (· != '-'))
  match digits.dropWhile (· != '-') with
  | [] => ⟨low, low⟩
  | _ :: high => ⟨low, numeral high⟩

/-- The entries of a table, which are separated by blanks and line breaks. -/
def tableEntries (table : String) : List String :=
  ((table.splitOn "\n").flatMap fun line => line.splitOn " ").filter (· != "")

/-- Reads a table of ascending entries. -/
def ofTable (table : String) : CharSet := ⟨(tableEntries table).toArray.map intervalOfText⟩

end CharSet

end Abiscope.Unicode
