/-!
# Text in UTF-8

A character is a lead byte and up to three continuation bytes. The lead byte fixes how many follow and
narrows the range of the first of them, so that overlong forms, surrogates and code points above the
last one never appear. Reading strictly refuses text with any other byte; reading leniently puts the
replacement character for every longest run of bytes that opens a character and does not finish it.
-/

namespace Abiscope.Text.Utf8

/-- What a lead byte says: the high bits of the code point and the ranges of the bytes that follow. -/
def lead? (byte : Nat) : Option (Nat × List (Nat × Nat)) :=
  let any := (0x80, 0xbf)
  if byte < 0x80 then some (byte, [])
  else if byte < 0xc2 then none
  else if byte < 0xe0 then some (byte % 0x20, [any])
  else if byte == 0xe0 then some (0, [(0xa0, 0xbf), any])
  else if byte == 0xed then some (0xd, [(0x80, 0x9f), any])
  else if byte < 0xf0 then some (byte % 0x10, [any, any])
  else if byte == 0xf0 then some (0, [(0x90, 0xbf), any, any])
  else if byte < 0xf4 then some (byte % 0x08, [any, any, any])
  else if byte == 0xf4 then some (4, [(0x80, 0x8f), any, any])
  else none

/-- Reads continuation bytes as long as they lie in their ranges. The code point is there when all of
them do; the bytes behind the last good one are left. -/
def continueWith : List (Nat × Nat) → Nat → List UInt8 → Option Nat × List UInt8
  | [], value, bytes => (some value, bytes)
  | _ :: _, _, [] => (none, [])
  | (low, high) :: ranges, value, byte :: bytes =>
    if low ≤ byte.toNat && byte.toNat ≤ high then
      continueWith ranges (value * 64 + byte.toNat % 64) bytes
    else (none, byte :: bytes)

theorem length_continueWith (ranges : List (Nat × Nat)) (value : Nat) (bytes : List UInt8) :
    (continueWith ranges value bytes).2.length ≤ bytes.length := by
  induction ranges generalizing value bytes with
  | nil => simp [continueWith]
  | cons range ranges step =>
    cases bytes with
    | nil => simp [continueWith]
    | cons byte bytes =>
      simp only [continueWith]
      split
      · exact Nat.le_succ_of_le (step _ _)
      · simp

/-- Reads the character that a byte opens, if it is finished. -/
def first (byte : UInt8) (bytes : List UInt8) : Option Char × List UInt8 :=
  match lead? byte.toNat with
  | none => (none, bytes)
  | some (value, ranges) =>
    let (codePoint, rest) := continueWith ranges value bytes
    (codePoint.map Char.ofNat, rest)

theorem length_first (byte : UInt8) (bytes : List UInt8) :
    (first byte bytes).2.length ≤ bytes.length := by
  unfold first
  split
  · exact Nat.le_refl _
  · exact length_continueWith _ _ _

/-- The character that stands for bytes that are no text. -/
def replacement : Char := Char.ofNat 0xfffd

/-- Reads bytes leniently. -/
def decodeLossy : List UInt8 → List Char
  | [] => []
  | byte :: bytes =>
    let read := first byte bytes
    read.1.getD replacement :: decodeLossy read.2
termination_by bytes => bytes.length
decreasing_by exact Nat.lt_succ_of_le (length_first _ _)

/-- Reads bytes that have to be text throughout. -/
def decode? : List UInt8 → Option (List Char)
  | [] => some []
  | byte :: bytes =>
    let read := first byte bytes
    match read.1 with
    | none => none
    | some c => (decode? read.2).map (c :: ·)
termination_by bytes => bytes.length
decreasing_by exact Nat.lt_succ_of_le (length_first _ _)

/-- Lenient reading changes nothing about bytes that are text. -/
theorem decodeLossy_of_decode? {bytes : List UInt8} {text : List Char}
    (strict : decode? bytes = some text) : decodeLossy bytes = text := by
  fun_induction decode? bytes generalizing text with
  | case1 => simpa [decodeLossy] using strict
  | case2 => simp at strict
  | case3 byte bytes read c finished =>
    rename_i step
    obtain ⟨rest, decoded, same⟩ := Option.map_eq_some_iff.mp strict
    rw [decodeLossy, step decoded, ← same]
    simp [show (first byte bytes).1 = some c from finished]

end Abiscope.Text.Utf8
