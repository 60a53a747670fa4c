/-!
# Punycode identifiers

An identifier outside ASCII is mangled as its ASCII characters and a run of digits in base 36. Each
group of digits is a number in a mixed radix that tells how far to walk, through all positions of the
text and all code points above ASCII, to the next insertion. The radix adapts to the numbers seen
before. All arithmetic is on words of 64 bits: a number that does not fit makes the text undecodable.
-/

namespace Abiscope.Mangling.Punycode

/-- A decoded identifier has at most this many characters. -/
def maxLength : Nat := 128

/-- A number that fits into a word of 64 bits. -/
def word? (value : Nat) : Option Nat := if value < UInt64.size then some value else none

/-- The value of a digit: letters come first, then the decimal digits. -/
def digit? (c : Char) : Option Nat :=
  if 'a' ≤ c ∧ c ≤ 'z' then some (c.toNat - 'a'.toNat)
  else if '0' ≤ c ∧ c ≤ '9' then some (26 + (c.toNat - '0'.toNat))
  else none

/-- A digit below the threshold of its position ends a number. -/
def threshold (position bias : Nat) : Nat := min (max (position - bias) 1) 26

/-- Reads one number: the digits up to the first below its threshold. The weight of a digit is the
product of what the digits before it left above their thresholds. -/
def readDelta (bias : Nat) : (position weight delta : Nat) → List Char → Option (Nat × List Char)
  | _, _, _, [] => none
  | position, weight, delta, c :: rest => do
    let digit ← digit? c
    let product ← word? (digit * weight)
    let delta ← word? (delta + product)
    if digit < threshold position bias then some (delta, rest)
    else
      let weight ← word? (weight * (36 - threshold position bias))
      readDelta bias (position + 36) weight delta rest

/-- A number takes at least one digit. -/
theorem length_of_readDelta {bias position weight delta number : Nat} {digits rest : List Char}
    (read : readDelta bias position weight delta digits = some (number, rest)) :
    rest.length < digits.length := by
  induction digits generalizing position weight delta with
  | nil => simp [readDelta] at read
  | cons c tail step =>
    simp only [readDelta, Option.bind_eq_bind, Option.bind_eq_some_iff] at read
    obtain ⟨digit, _, product, _, sum, _, read⟩ := read
    split at read
    · simp only [Option.some.injEq, Prod.mk.injEq] at read
      simp [← read.2]
    · simp only [Option.bind_eq_some_iff] at read
      obtain ⟨next, _, read⟩ := read
      have := step read
      simp only [List.length_cons]
      omega

/-- Scales a distance down until it is small, counting 36 for each division. -/
def settle (delta steps : Nat) : Nat × Nat :=
  if 455 < delta then settle (delta / 35) (steps + 36) else (delta, steps)
termination_by delta
decreasing_by exact Nat.div_lt_self (by omega) (by omega)

/-- The bias after a number, damped more strongly for the first one. -/
def adapt (damp delta length : Nat) : Nat :=
  let delta := delta / damp
  let (delta, steps) := settle (delta + delta / length) 0
  steps + 36 * delta / (delta + 38)

/-- Where the decoder stands: the text so far, the code point and the position of the last insertion,
and the parameters of the next number. -/
structure Progress where
  text : List Char
  codePoint : Nat := 0x80
  position : Nat := 0
  bias : Nat := 72
  damp : Nat := 700

/-- The character of a code point that is one. -/
def char? (codePoint : Nat) : Option Char :=
  if codePoint.isValidChar then some (Char.ofNat codePoint) else none

/-- Makes the insertion that one number asks for. -/
def Progress.insert (progress : Progress) (delta : Nat) : Option Progress := do
  let length := progress.text.length + 1
  let walked ← word? (progress.position + delta)
  let codePoint ← word? (progress.codePoint + walked / length)
  let c ← char? codePoint
  if length ≤ maxLength then
    let position := walked % length
    some
      { text := progress.text.take position ++ c :: progress.text.drop position
        codePoint := codePoint
        position := position + 1
        bias := adapt progress.damp delta length
        damp := 2 }
  else none

/-- Makes all insertions of a run of digits. -/
def Progress.run (progress : Progress) (digits : List Char) : Option (List Char) :=
  match _ : readDelta progress.bias 36 1 0 digits with
  | none => none
  | some (delta, rest) =>
    match progress.insert delta with
    | none => none
    | some progress => if rest.isEmpty then some progress.text else progress.run rest
termination_by digits.length
decreasing_by exact length_of_readDelta ‹_›

/-- The text of an identifier given by its ASCII part and its digits. Digits have to be present. -/
def decode (ascii digits : List Char) : Option (List Char) :=
  if ascii.length ≤ maxLength then Progress.run ⟨ascii, 0x80, 0, 72, 700⟩ digits else none

end Abiscope.Mangling.Punycode
