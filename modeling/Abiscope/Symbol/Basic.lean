import Abiscope.Address
import Abiscope.Mangling
import Abiscope.Symbol.Kind

/-!
# Symbols

A symbol is a name that a binary defines or asks for, with what the name stands for and the version it
is bound to. Two symbols of one name are told apart by their versions, so a symbol is identified by its
name and version together: the id string.
-/

namespace Abiscope

namespace Symbol

/-- The version of a symbol. A default version is the one that a plain name is bound to; the empty name
means that the symbol has no version. -/
structure Version where
  name : String := ""
  isDefault : Bool := false
deriving DecidableEq, Repr

/-- Whether a symbol has no version. -/
def Version.isEmpty (version : Version) : Bool := version.name == ""

end Symbol

/-- A symbol of a binary. `index` is its place in the table of the binary, `address` is recorded for
defined symbols that are not common, and `isExported` tells whether a kernel lists it for its modules. -/
structure Symbol where
  index : Nat := 0
  name : String
  size : UInt64 := 0
  kind : Symbol.Kind
  binding : Symbol.Binding := .global
  visibility : Symbol.Visibility := .everywhere
  version : Symbol.Version := {}
  isDefined : Bool := true
  isCommon : Bool := false
  isSuppressed : Bool := false
  isExported : Bool := false
  address : Option Address := none
deriving DecidableEq, Repr

namespace Symbol

def isFunction (symbol : Symbol) : Bool := symbol.kind.isFunction

def isVariable (symbol : Symbol) : Bool := symbol.kind.isVariable

/-- Whether other binaries can bind to a symbol: it is defined, not local, and visible outside. -/
def isPublic (symbol : Symbol) : Bool :=
  symbol.isDefined && symbol.binding != .localOnly &&
    (symbol.visibility == .everywhere || symbol.visibility == .guarded)

/-- The name, and behind it the version: after two marks if it is the default one, after one if not. -/
def idString (symbol : Symbol) : String :=
  if symbol.version.isEmpty then symbol.name
  else symbol.name ++ (if symbol.version.isDefault then "@@" else "@") ++ symbol.version.name

/-- A symbol without a version goes by its name. -/
theorem idString_of_isEmpty {symbol : Symbol} (unversioned : symbol.version.isEmpty = true) :
    symbol.idString = symbol.name := by
  simp [idString, unversioned]

end Symbol

end Abiscope
