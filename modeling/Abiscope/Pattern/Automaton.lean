import Abiscope.Unicode.Properties

/-!
# Patterns as movements through a text

A pattern moves from places in a text to places further on: a class of characters moves over one
character of the class, a condition stays where it holds, and the other forms combine movements. A text
matches when the pattern can move from any of its places at all.

A set of places is a number whose bits are the places. Repetition stops as soon as another round
changes nothing, so its bounds may be as large as they like.
-/

namespace Abiscope.Pattern

/-- A condition on a place in a text. Words are told apart by the characters that form them. -/
inductive Condition where
  | textStart
  | textEnd
  | lineStart
  | lineEnd
  /-- Lines that may also end with a carriage return, alone or before a line feed. -/
  | anyLineStart
  | anyLineEnd
  | wordBoundary (word : Unicode.CharSet)
  | insideOrOutside (word : Unicode.CharSet)
  | wordStart (word : Unicode.CharSet)
  | wordEnd (word : Unicode.CharSet)
  | notAfterWord (word : Unicode.CharSet)
  | notBeforeWord (word : Unicode.CharSet)

/-- A pattern. -/
inductive Machine where
  | nothing
  | oneOf (set : Unicode.CharSet)
  | check (condition : Condition)
  | both (first second : Machine)
  | either (first second : Machine)
  | repeated (body : Machine) (least : Nat) (most : Option Nat)

/-- Whether a condition holds at a place. -/
def Condition.holds (condition : Condition) (text : Array Char) (place : Nat) : Bool :=
  let before : Option Char := if place = 0 then none else text[place - 1]?
  let after := text[place]?
  let wordBefore (word : Unicode.CharSet) := before.any word.contains
  let wordAfter (word : Unicode.CharSet) := after.any word.contains
  match condition with
  | .textStart => before.isNone
  | .textEnd => after.isNone
  | .lineStart => before.all (· == '\n')
  | .lineEnd => after.all (· == '\n')
  | .anyLineStart => before.all fun c => c == '\n' || (c == '\r' && after != some '\n')
  | .anyLineEnd => after.all fun c => c == '\r' || (c == '\n' && before != some '\r')
  | .wordBoundary word => wordBefore word != wordAfter word
  | .insideOrOutside word => wordBefore word == wordAfter word
  | .wordStart word => !wordBefore word && wordAfter word
  | .wordEnd word => wordBefore word && !wordAfter word
  | .notAfterWord word => !wordBefore word
  | .notBeforeWord word => !wordAfter word

/-- A set of places in a text. -/
abbrev Places := Nat

namespace Places

/-- The places up to a bound, not included, that have a property. -/
def below (bound : Nat) (property : Nat → Bool) : Places :=
  bound.fold (fun place _ places => if property place then places ||| (1 <<< place) else places) 0

end Places

/-- Moves as often as wanted, but no more than `rounds` times; stops early when a round changes
nothing. -/
def moveTimes (move : Places → Places) : (rounds : Nat) → Places → Places
  | 0, places => places
  | rounds + 1, places =>
    let next := move places
    if next = places then places else moveTimes move rounds next

/-- The places reached by any number of moves up to `rounds`, the start included. -/
def moveUpTo (move : Places → Places) : (rounds : Nat) → Places → Places
  | 0, places => places
  | rounds + 1, places =>
    let next := places ||| move places
    if next = places then places else moveUpTo move rounds next

/-- The places reached from a set of places. Every place of a text is reached within as many rounds as
the text has characters. -/
def Machine.reach (text : Array Char) : Machine → Places → Places
  | .nothing, places => places
  | .oneOf set, places =>
    (places &&& Places.below text.size fun place => text[place]?.any set.contains) <<< 1
  | .check condition, places => places &&& Places.below (text.size + 1) (condition.holds text)
  | .both first second, places => second.reach text (first.reach text places)
  | .either first second, places => first.reach text places ||| second.reach text places
  | .repeated body least most, places =>
    let rounds := match most with
      | some most => most - least
      | none => text.size + 1
    moveUpTo (body.reach text) rounds (moveTimes (body.reach text) least places)

/-- Whether a pattern matches anywhere in a text. -/
def Machine.matchesIn (machine : Machine) (text : Array Char) : Bool :=
  machine.reach text (Places.below (text.size + 1) fun _ => true) != 0

/-- The longest text that a pattern can move over, if there is a bound. -/
def Machine.longest : Machine → Option Nat
  | .nothing | .check _ => some 0
  | .oneOf _ => some 1
  | .both first second => do return (← first.longest) + (← second.longest)
  | .either first second => do return max (← first.longest) (← second.longest)
  | .repeated body _ most =>
    match body.longest, most with
    | some 0, _ => some 0
    | some length, some most => some (length * most)
    | _, _ => none

/-- Room for one step of a compiled pattern, in bytes. -/
def stepRoom : Nat := 32

/-- Room for a class: one step for one interval of ASCII; elsewhere each interval takes a few steps over
the bytes of its characters. -/
def classRoom (set : Unicode.CharSet) : Nat :=
  let beyond := set.intervals.toList.filter fun interval => interval.high > 0x7f
  if beyond.isEmpty then
    if set.intervals.size ≤ 1 then stepRoom else stepRoom + 8 * set.intervals.size
  else stepRoom + 8 * set.intervals.size + 10 * stepRoom + 56 * beyond.length

/-- The room that a compiled pattern takes. Counted repetition copies its body. -/
def Machine.room : Machine → Nat
  | .nothing | .check _ => stepRoom
  | .oneOf set => classRoom set
  | .both first second => first.room + second.room
  | .either first second => first.room + second.room + 2 * stepRoom + 8
  | .repeated body least most =>
    let (least, most) :=
      if body.longest = some 0 then (min least 1, some (min (most.getD 1) 1)) else (least, most)
    match most with
    | some most => least * body.room + (most - least) * (body.room + stepRoom + 8) + stepRoom
    | none => max least 1 * body.room + stepRoom + 8

/-- Patterns that would take more room than this are refused. -/
def roomLimit : Nat := 10 * 1024 * 1024

end Abiscope.Pattern
