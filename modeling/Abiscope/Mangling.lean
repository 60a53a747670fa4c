import Abiscope.Mangling.Legacy
import Abiscope.Mangling.V0

/-!
# Names that linkers see and names that people read

A linkage name can be mangled in two ways, part by part or by grammar; the first that accepts it gives
the name that is shown. What follows the mangled name is kept when it looks like the suffix of a copy
that an optimiser made, and otherwise the name counts as not mangled. A suffix of the optimiser's own
that ends the name is dropped before anything else.
-/

namespace Abiscope.Mangling

/-- Cuts a name at the first such suffix when only hexadecimal digits in upper case and `@` follow. -/
def dropHashSuffix (symbol : String) : String :=
  match symbol.splitOn ".llvm." with
  | name :: first :: others =>
    let digits := String.intercalate ".llvm." (first :: others)
    if digits.all fun c => c.isDigit || ('A' ≤ c && c ≤ 'F') || c == '@' then name else symbol
  | _ => symbol

/-- A suffix starts with a dot and holds visible ASCII characters only. -/
def isCopySuffix (suffix : List Char) : Bool :=
  suffix.head? == some '.' && suffix.all fun c => 0x21 ≤ c.toNat && c.toNat ≤ 0x7e

/-- The name shown for a mangled one. -/
def demangle? (symbol : String) : Option String :=
  let symbol := dropHashSuffix symbol
  match Legacy.demangle? symbol <|> V0.demangle? symbol with
  | some (name, suffix) =>
    if suffix.isEmpty || isCopySuffix suffix then some (name ++ String.ofList suffix) else none
  | none => none

/-- The language that a linkage name comes from. -/
inductive Language where
  | rust
  | cpp
  | c
deriving DecidableEq, Repr

/-- The name of a language in listings. -/
def Language.name : Language → String
  | rust => "rust"
  | cpp => "c++"
  | c => "c"

/-- The language that a linkage name gives away. The part by part mangling shares its opening mark with
another language and is told from it by being readable. -/
def language (symbol : String) : Language :=
  if symbol.startsWith "_R" || (symbol.startsWith "_ZN" && (demangle? symbol).isSome) then .rust
  else if symbol.startsWith "_Z" then .cpp
  else .c

/-- The name that people read: the demangled one, or else the linkage name itself. -/
def displayName (symbol : String) : String := (demangle? symbol).getD symbol

end Abiscope.Mangling
