import Abiscope.Unicode.Properties

/-!
# Escaped characters

How a character is shown inside quotes: quotes, the backslash and the common control characters get a
backslash, characters that cannot be seen on their own are given by their code point, and every other
character stands for itself.
-/

namespace Abiscope.Text

/-- Characters without a shape of their own: controls, formats, unassigned and private ones, and all
separators but the blank. -/
def unprintable : Unicode.CharSet :=
  (Unicode.CharSet.ofIntervals <|
    (["cc", "cf", "cs", "co", "cn", "zl", "zp", "zs"].map Unicode.Category.basicSet).flatMap
      fun set => set.intervals.toList).diff (Unicode.CharSet.singleton ' ')

/-- Characters that are drawn onto the one before them. -/
def attached : Unicode.CharSet := Unicode.Flag.set "graphemeextend"

/-- The digits of a number, the most significant first, without leading zeros. -/
def hexNumeral (value : Nat) : List Char := Nat.toDigits 16 value

/-- The code point of a character between braces. -/
def escapeCodePoint (c : Char) : List Char :=
  ['\\', 'u', '\x7b'] ++ hexNumeral c.toNat ++ ['\x7d']

/-- A character as it is shown inside quotes. -/
def escape (c : Char) : List Char :=
  match c with
  | '\x00' => ['\\', '0']
  | '\t' => ['\\', 't']
  | '\r' => ['\\', 'r']
  | '\n' => ['\\', 'n']
  | '"' => ['\\', '"']
  | '\'' => ['\\', '\'']
  | '\\' => ['\\', '\\']
  | _ => if attached.contains c || unprintable.contains c then escapeCodePoint c else [c]

end Abiscope.Text
