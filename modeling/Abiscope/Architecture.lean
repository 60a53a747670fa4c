/-!
# Architectures

The processor family that a binary is built for. Three families are told apart by name; every other
one is known only by the name it is reported under.
-/

namespace Abiscope

/-- A processor family. -/
inductive Architecture where
  | x86_64
  | arm64
  | powerPc64
  | other (name : String)
deriving DecidableEq, Repr

namespace Architecture

/-- The name that reports show. -/
def name : Architecture → String
  | x86_64 => "x86_64"
  | arm64 => "aarch64"
  | powerPc64 => "ppc64"
  | other name => name

/-- The family of a reported name. -/
def ofName : String → Architecture
  | "x86_64" => x86_64
  | "aarch64" => arm64
  | "ppc64" => powerPc64
  | name => other name

theorem name_ofName (text : String) : (ofName text).name = text := by
  unfold ofName
  split <;> rfl

end Architecture

end Abiscope
