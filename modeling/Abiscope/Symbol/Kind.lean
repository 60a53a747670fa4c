/-!
# What a symbol is and who may see it

A symbol table entry carries three small numbers: what the symbol names, how it binds against other
definitions of its name, and how far it is visible. Numbers outside the standard ones fall back on the
plainest meaning: no type, global binding, default visibility.
-/

namespace Abiscope.Symbol

/-- What a symbol names. -/
inductive Kind where
  | untyped
  | object
  | function
  | sectionName
  | fileName
  | common
  | threadLocal
  | indirectFunction
deriving DecidableEq, Repr

namespace Kind

/-- The meaning of the type number of an entry. -/
def ofCode : Nat → Kind
  | 1 => object
  | 2 => function
  | 3 => sectionName
  | 4 => fileName
  | 5 => common
  | 6 => threadLocal
  | 10 => indirectFunction
  | _ => untyped

/-- The name that listings and reports show. -/
def name : Kind → String
  | untyped => "no-type"
  | object => "object-type"
  | function => "func-type"
  | sectionName => "section-type"
  | fileName => "file-type"
  | common => "common-type"
  | threadLocal => "tls-type"
  | indirectFunction => "gnu-ifunc-type"

/-- Symbols that can be called. -/
def isFunction : Kind → Bool
  | function | indirectFunction => true
  | _ => false

/-- Symbols that hold data. -/
def isVariable : Kind → Bool
  | object | threadLocal | common => true
  | _ => false

/-- No symbol is both code and data. -/
theorem isVariable_of_isFunction {kind : Kind} (code : kind.isFunction = true) :
    kind.isVariable = false := by
  cases kind <;> simp_all [isFunction, isVariable]

end Kind

/-- How a symbol binds against other definitions of its name. -/
inductive Binding where
  | localOnly
  | global
  | weak
  | unique
deriving DecidableEq, Repr

namespace Binding

/-- The meaning of the binding number of an entry. -/
def ofCode : Nat → Binding
  | 0 => localOnly
  | 2 => weak
  | 10 => unique
  | _ => global

/-- The name that listings and reports show. -/
def name : Binding → String
  | localOnly => "local-binding"
  | global => "global-binding"
  | weak => "weak-binding"
  | unique => "gnu-unique-binding"

end Binding

/-- How far a symbol is visible outside its binary. -/
inductive Visibility where
  | everywhere
  | internal
  | hidden
  | guarded
deriving DecidableEq, Repr

namespace Visibility

/-- The meaning of the visibility number of an entry. -/
def ofCode : Nat → Visibility
  | 1 => internal
  | 2 => hidden
  | 3 => guarded
  | _ => everywhere

/-- The name that listings and reports show. -/
def name : Visibility → String
  | everywhere => "default-visibility"
  | internal => "internal-visibility"
  | hidden => "hidden-visibility"
  | guarded => "protected-visibility"

end Visibility

end Abiscope.Symbol
