import Abiscope.Text.Hexadecimal

/-!
# Names mangled part by part

The older mangling writes a path as a run of parts, each preceded by its length, between an opening
mark and the letter `E`. Characters that a linker does not take are written as escapes between dollar
signs, and two dots stand for a path separator inside a part. The last part is usually a hash of the
definition, which the shown name leaves out.
-/

namespace Abiscope.Mangling.Legacy

/-- The text behind an opening mark. Some linkers drop or double the leading underscore. -/
def body? (symbol : String) : Option (List Char) :=
  match symbol.toList with
  | '_' :: 'Z' :: 'N' :: body => some body
  | 'Z' :: 'N' :: body => some body
  | '_' :: '_' :: 'Z' :: 'N' :: body => some body
  | _ => none

/-- Splits a path into its parts and the text behind the closing letter. The count `fuel` of parts that
may still follow never runs out when it starts at the length of the text. -/
def splitParts : (fuel : Nat) → List Char → Option (List (List Char) × List Char)
  | 0, _ => none
  | fuel + 1, text =>
    match text with
    | 'E' :: rest => some ([], rest)
    | _ =>
      let digits := text.takeWhile Char.isDigit
      let rest := text.dropWhile Char.isDigit
      let length := Nat.ofDigitChars 10 digits 0
      if digits.isEmpty || length ≥ UInt64.size || rest.length ≤ length then none
      else (splitParts fuel (rest.drop length)).map fun (parts, suffix) =>
        (rest.take length :: parts, suffix)

/-- A hash is the letter `h` and hexadecimal digits. -/
def isHash : List Char → Bool
  | 'h' :: digits => digits.all fun c => (Text.hexValue? c).isSome
  | _ => false

/-- Control characters are never written by an escape. -/
def isControl (c : Char) : Bool := c.toNat < 0x20 || (0x7f ≤ c.toNat && c.toNat < 0xa0)

/-- The character that an escape with a code point stands for. The digits are lower case. -/
def codePoint? (digits : List Char) : Option Char :=
  let value := digits.foldl (fun value c => value * 16 + (Text.hexValue? c).getD 0) 0
  if digits.isEmpty || value ≥ UInt32.size || !digits.all (fun c => c.isDigit || ('a' ≤ c && c ≤ 'f')) then
    none
  else if value.isValidChar && !isControl (Char.ofNat value) then some (Char.ofNat value)
  else none

/-- What the text between two dollar signs stands for. -/
def unescape? : List Char → Option Char
  | ['S', 'P'] => some '@'
  | ['B', 'P'] => some '*'
  | ['R', 'F'] => some '&'
  | ['L', 'T'] => some '<'
  | ['G', 'T'] => some '>'
  | ['L', 'P'] => some '('
  | ['R', 'P'] => some ')'
  | ['C'] => some ','
  | 'u' :: digits => codePoint? digits
  | _ => none

/-- Reads an escape behind its first dollar sign: the character and the text behind the second. -/
def readEscape? (text : List Char) : Option (Char × List Char) :=
  match text.dropWhile (· != '$') with
  | [] => none
  | _ :: rest => (unescape? (text.takeWhile (· != '$'))).map fun c => (c, rest)

theorem length_of_readEscape? {text rest : List Char} {c : Char}
    (read : readEscape? text = some (c, rest)) : rest.length < text.length := by
  unfold readEscape? at read
  split at read
  · simp at read
  · rename_i dollar tail dropped
    obtain ⟨_, _, same⟩ := Option.map_eq_some_iff.mp read
    have shorter := (List.dropWhile_suffix (l := text) (· != '$')).length_le
    rw [dropped, List.length_cons] at shorter
    rw [← (Prod.mk.inj same).2]
    omega

/-- Shows a part: dots and escapes are resolved, and from the first escape that means nothing the rest
is kept as written. -/
def showText (text : List Char) : List Char :=
  match text with
  | [] => []
  | '.' :: '.' :: rest => ':' :: ':' :: showText rest
  | '$' :: rest =>
    match _ : readEscape? rest with
    | some (c, rest) => c :: showText rest
    | none => '$' :: rest
  | c :: rest => c :: showText rest
termination_by text.length
decreasing_by
  · simp only [List.length_cons]
    omega
  · have := length_of_readEscape? ‹_›
    simp only [List.length_cons]
    omega
  · simp

/-- Shows a part. The underscore that keeps a leading escape from opening the part is dropped. -/
def showPart : List Char → List Char
  | '_' :: '$' :: rest => showText ('$' :: rest)
  | text => showText text

/-- The shown path and the text behind the mangled name. Only ASCII symbols are mangled names. -/
def demangle? (symbol : String) : Option (String × List Char) := do
  let body ← body? symbol
  if body.all (·.toNat < 0x80) then
    let (parts, suffix) ← splitParts (body.length + 1) body
    let shown := if (parts.getLast?.map isHash).getD false then parts.dropLast else parts
    some (String.intercalate "::" (shown.map fun part => String.ofList (showPart part)), suffix)
  else none

end Abiscope.Mangling.Legacy
