import Abiscope.Text.Hexadecimal

/-!
# Addresses of symbols

An address is a word of 64 bits. Moving it by an offset wraps round at the end of the address space,
and its text always shows all sixteen digits, so that addresses sort as text the way they sort as
numbers.
-/

namespace Abiscope

/-- A place in the address space of a loaded binary. -/
structure Address where
  val : UInt64
deriving DecidableEq, Hashable, Repr

namespace Address

/-- Moves an address forward, wrapping round at the end of the address space. -/
def advance (address : Address) (offset : UInt64) : Address := ⟨address.val + offset⟩

/-- The mark `0x` and sixteen digits. -/
def render (address : Address) : String :=
  "0x" ++ String.ofList (Text.hexDigits 16 address.val.toNat)

theorem advance_zero (address : Address) : address.advance 0 = address := by
  simp [advance]

theorem val_advance (address : Address) (offset : UInt64) :
    (address.advance offset).val.toNat = (address.val.toNat + offset.toNat) % UInt64.size := by
  simp [advance, UInt64.toNat_add, UInt64.size]

end Address

end Abiscope
