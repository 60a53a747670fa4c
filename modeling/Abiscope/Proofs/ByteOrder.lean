import Mathlib.Tactic.SplitIfs

/-!
# The order of texts

Texts are ordered by their characters, and characters by their code points. In the form in which texts are
stored this is the order of bytes: the first byte of a character grows with the number of its bytes, and
among characters of one length the bytes are the digits of the code point, the most significant first. So a
smaller character has smaller bytes, whatever follows either of them.
-/

namespace Abiscope.Text

/-- The bytes of a text. -/
def bytes (text : String) : List UInt8 := text.toUTF8.data.toList

/-- The bytes of a text are those of its characters. -/
theorem bytes_eq_flatMap (text : String) :
    bytes text = text.toList.flatMap String.utf8EncodeChar := by
  rw [bytes, String.toUTF8_eq_toByteArray, ← String.utf8Encode_toList, List.utf8Encode.eq_1,
    List.toList_data_toByteArray]

/-- A smaller character has smaller bytes, whatever follows. -/
theorem utf8EncodeChar_append_lt {one other : Char} (smaller : one < other) (rest others : List UInt8) :
    String.utf8EncodeChar one ++ rest < String.utf8EncodeChar other ++ others := by
  have order : one.val.toNat < other.val.toNat := smaller
  have bound : other.val.toNat < 1114112 := by
    rcases other.valid with low | ⟨_, high⟩
    · exact Nat.lt_trans low (by decide)
    · exact high
  -- The digits of a code point to the base 64, of which the first is below 8.
  have digits {code : Nat} (inside : code < 1114112) :
      code / 64 / 64 = code / 4096 ∧ code / 4096 / 64 = code / 262144 ∧
        code / 262144 % 8 = code / 262144 := by
    rw [Nat.div_div_eq_div_mul, Nat.div_div_eq_div_mul]
    exact ⟨rfl, rfl, by omega⟩
  have ofOne := digits (Nat.lt_trans order bound)
  have ofOther := digits bound
  rw [String.utf8EncodeChar.eq_1, String.utf8EncodeChar.eq_1]
  generalize one.val.toNat = low at *
  generalize other.val.toNat = high at *
  split_ifs <;>
    simp (disch := simp only [UInt8.size]; omega) only [List.cons_append, List.nil_append,
      List.cons_lt_cons_iff, UInt8.ofNat_lt_iff_lt, ← UInt8.toNat_inj, UInt8.toNat_ofNat_of_lt'] <;>
    omega

/-- Smaller characters in a text make its bytes smaller. -/
theorem flatMap_utf8EncodeChar_lt {left right : List Char} (smaller : left < right) :
    left.flatMap String.utf8EncodeChar < right.flatMap String.utf8EncodeChar := by
  induction left generalizing right with
  | nil =>
    cases right with
    | nil => exact absurd smaller (List.lt_irrefl [])
    | cons char rest =>
      obtain ⟨byte, bytes, encoded⟩ := List.exists_cons_of_ne_nil (String.utf8EncodeChar_ne_nil (c := char))
      rw [List.flatMap_cons, encoded]
      exact List.nil_lt_cons byte _
  | cons char rest inductionHypothesis =>
    cases right with
    | nil => exact absurd smaller (List.not_lt_nil _)
    | cons counterpart others =>
      rw [List.flatMap_cons, List.flatMap_cons]
      rcases List.cons_lt_cons_iff.mp smaller with before | ⟨rfl, behind⟩
      · exact utf8EncodeChar_append_lt before _ _
      · exact List.append_left_lt (inductionHypothesis behind)

/-- Texts are in the order of their bytes. -/
theorem lt_iff_bytes_lt (left right : String) : left < right ↔ bytes left < bytes right := by
  have mono {one other : String} (smaller : one < other) : bytes one < bytes other := by
    rw [bytes_eq_flatMap, bytes_eq_flatMap]
    exact flatMap_utf8EncodeChar_lt (String.lt_iff.mp smaller)
  refine ⟨mono, fun smaller => ?_⟩
  refine Decidable.byContradiction fun notBefore => ?_
  have notBehind : ¬right < left := fun behind => List.lt_asymm smaller (mono behind)
  rw [String.le_antisymm (String.not_lt.mp notBehind) (String.not_lt.mp notBefore)] at smaller
  exact List.lt_irrefl _ smaller

end Abiscope.Text
