import Abiscope.Corpus.Basic
import Abiscope.Elf.Image
import Abiscope.Suppression

/-!
# Corpora of binaries

The corpus of a binary holds its symbols and no declarations. Suppressions that drop things already
when a binary is read suppress symbols by their names; they are judged for the binary that is read.
-/

namespace Abiscope.Corpus

/-- The suppressions that drop things when a binary is read. -/
def dropping (suppressions : List Suppression) : List Suppression :=
  suppressions.filter fun suppression => suppression.header.drops

/-- Reads the corpus of a binary found at a path. -/
def ofImage (path : String) (image : ByteArray) (suppressions : List Suppression) :
    Except Elf.ReadError Corpus := do
  let identity ← Elf.identity image
  let soname := identity.dynamic.soname.getD ""
  let context : Suppression.Context := ⟨dropping suppressions, ⟨soname, path⟩⟩
  let table ← Elf.symbolTable image fun symbol => context.suppressesSymbol symbol.name symbol.kind
  return {
    path := path
    soname := soname
    architecture := some (Architecture.ofName identity.architecture)
    needed := identity.dynamic.needed
    table := table }

end Abiscope.Corpus
