import Abiscope.Text.Utf8

/-!
# Bytes of an image

The parts of an image are given by an offset and a size and have to lie inside it. Numbers are stored
with their least or their most significant byte first, and text ends before a byte that is zero.
-/

namespace Abiscope.Elf

/-- Which byte of a number comes first. -/
inductive ByteOrder where
  | leastFirst
  | mostFirst
deriving DecidableEq, Repr

/-- The number that bytes stand for. -/
def ByteOrder.value (order : ByteOrder) (bytes : List UInt8) : Nat :=
  match order with
  | leastFirst => bytes.foldr (fun byte value => value * 256 + byte.toNat) 0
  | mostFirst => bytes.foldl (fun value byte => value * 256 + byte.toNat) 0

/-- The order of bytes and the order of significance agree up to reversal. -/
theorem ByteOrder.value_reverse (bytes : List UInt8) :
    ByteOrder.leastFirst.value bytes.reverse = ByteOrder.mostFirst.value bytes := by
  simp [value, List.foldr_reverse]

/-- The part of an image at an offset, if it lies inside. -/
def slice? (bytes : ByteArray) (offset size : Nat) : Option ByteArray :=
  if offset + size ≤ bytes.size then some (bytes.extract offset (offset + size)) else none

/-- The number of some width at an offset. -/
def number? (order : ByteOrder) (bytes : ByteArray) (offset width : Nat) : Option Nat :=
  (slice? bytes offset width).map fun part => order.value part.data.toList

/-- Consecutive numbers of given widths. -/
def numbers? (order : ByteOrder) (bytes : ByteArray) : Nat → List Nat → Option (List Nat)
  | _, [] => some []
  | offset, width :: widths => do
    let first ← number? order bytes offset width
    let rest ← numbers? order bytes (offset + width) widths
    return first :: rest

/-- As many numbers are read as widths are given. -/
theorem length_of_numbers? {order : ByteOrder} {bytes : ByteArray} {offset : Nat}
    {widths values : List Nat} (read : numbers? order bytes offset widths = some values) :
    values.length = widths.length := by
  induction widths generalizing offset values with
  | nil => simp_all [numbers?]
  | cons width widths step =>
    simp only [numbers?, Option.bind_eq_bind, Option.bind_eq_some_iff, Option.pure_def,
      Option.some.injEq] at read
    obtain ⟨first, _, rest, tail, same⟩ := read
    simp [← same, step tail]

/-- The bytes before the next zero, which has to come within `room` bytes. -/
def bytesUpToZero (bytes : ByteArray) : Nat → Nat → Option (List UInt8)
  | 0, _ => none
  | room + 1, offset =>
    match bytes[offset]? with
    | none => none
    | some byte =>
      if byte == 0 then some []
      else (bytesUpToZero bytes room (offset + 1)).map (byte :: ·)

/-- The text at an offset in a table of texts, if it is ended inside the table. -/
def textAt? (table : ByteArray) (offset : Nat) : Option String :=
  (bytesUpToZero table (table.size - offset) offset).map fun bytes =>
    String.ofList (Text.Utf8.decodeLossy bytes)

end Abiscope.Elf
